import Mathlib.Data.List.Forall2
import Mathlib.Data.List.Nodup
import ModalLexer.Catalog.Builtin

/-! # Registration of grammars

A registration is refused for its names or for a pattern, and then changes nothing, or it adds the
grammar behind the others. In every catalog that comes from registrations the index finds, for each
name, the one grammar that has it.
-/

namespace ModalLexer

variable {ε : Type}

section Calls

variable {α β δ : Type} {f : α → Except δ β} {xs : List α} {ys : List β} {failure : δ}

theorem mapM_eq_ok_iff : xs.mapM f = .ok ys ↔ List.Forall₂ (fun x y => f x = .ok y) xs ys := by
  induction xs generalizing ys with
  | nil => cases ys <;> simp [pure, Except.pure]
  | cons x xs ih =>
    rw [List.mapM_cons, List.forall₂_cons_left_iff]
    cases hx : f x with
    | error failure => simp [bind, Except.bind]
    | ok y =>
      cases hxs : xs.mapM f with
      | error failure => simp [bind, Except.bind, ← ih, hxs]
      | ok more =>
        simp only [bind, Except.bind, pure, Except.pure, Except.ok.injEq, ← ih, hxs]
        constructor
        · rintro rfl
          exact ⟨y, more, rfl, rfl, rfl⟩
        · rintro ⟨_, _, rfl, rfl, rfl⟩
          rfl

theorem mapM_eq_error_iff : xs.mapM f = .error failure ↔
    ∃ before x after ys, xs = before ++ x :: after ∧
      List.Forall₂ (fun x y => f x = .ok y) before ys ∧ f x = .error failure := by
  induction xs with
  | nil => simp [pure, Except.pure]
  | cons first xs ih =>
    rw [List.mapM_cons]
    cases hfirst : f first with
    | error failure' =>
      constructor
      · intro h
        cases h
        exact ⟨[], first, xs, [], rfl, .nil, hfirst⟩
      · rintro ⟨before, x, after, ys, heq, hbefore, hx⟩
        cases before with
        | nil =>
          obtain ⟨rfl, -⟩ := List.cons.inj heq
          rw [hfirst] at hx
          cases hx
          rfl
        | cons other before =>
          obtain ⟨rfl, -⟩ := List.cons.inj heq
          obtain ⟨y, _, hy, -⟩ := List.forall₂_cons_left_iff.1 hbefore
          rw [hfirst] at hy
          cases hy
    | ok y =>
      have hrest :
          ((do let y ← Except.ok y; let ys ← xs.mapM f; return y :: ys) : Except δ (List β))
            = .error failure ↔ xs.mapM f = .error failure := by
        cases xs.mapM f <;> simp [bind, Except.bind, pure, Except.pure]
      rw [hrest, ih]
      constructor
      · rintro ⟨before, x, after, ys, rfl, hbefore, hx⟩
        exact ⟨first :: before, x, after, y :: ys, rfl, .cons hfirst hbefore, hx⟩
      · rintro ⟨before, x, after, ys, heq, hbefore, hx⟩
        cases before with
        | nil =>
          obtain ⟨rfl, -⟩ := List.cons.inj heq
          rw [hfirst] at hx
          cases hx
        | cons other before =>
          obtain ⟨rfl, rfl⟩ := List.cons.inj heq
          obtain ⟨_, more, _, hmore, rfl⟩ := List.forall₂_cons_left_iff.1 hbefore
          exact ⟨before, x, after, more, rfl, hmore, hx⟩

end Calls

/-- The pattern of a file name with what it is parsed to. -/
def Glob.Parses (pattern : String) (glob : Glob) : Prop := Glob.parse pattern.toList = .ok glob

/-- One of the file name patterns is valid and matches the name. -/
def GrammarInfo.MatchesName (info : GrammarInfo ε) (name : Text) : Prop :=
  ∃ pattern ∈ info.filePatterns, ∃ glob, Glob.Parses pattern glob ∧ glob.isMatch name

theorem GrammarInfo.matchesName_iff {info : GrammarInfo ε} {name : Text} : info.MatchesName name ↔
    info.filePatterns.any fun p => (Glob.parse p.toList).toOption.any (·.isMatch name) := by
  rw [MatchesName, List.any_eq_true]
  refine exists_congr fun p => and_congr_right fun _ => ?_
  cases hparse : Glob.parse p.toList <;> simp [Glob.Parses, hparse, Except.toOption]

instance (info : GrammarInfo ε) (name : Text) : Decidable (info.MatchesName name) :=
  decidable_of_iff _ GrammarInfo.matchesName_iff.symm

namespace Catalog

variable {c d : Catalog ε} {info : GrammarInfo ε} {infos : List (GrammarInfo ε)} {name : String}
  {e : CatalogError} {globs : List Glob}

section Names

variable {isTaken : String → Bool} {earlier names : List String}

theorem duplicate?_eq_none_iff :
    duplicate? isTaken earlier names = none ↔
      names.Nodup ∧ ∀ n ∈ names, isTaken n = false ∧ n ∉ earlier := by
  induction names generalizing earlier with
  | nil => simp [duplicate?]
  | cons first names ih =>
    rw [duplicate?]
    split
    · next hfirst =>
      simp only [Bool.or_eq_true, decide_eq_true_eq] at hfirst
      refine iff_of_false (by simp) (fun hnames => ?_)
      obtain ⟨hfree, hnew⟩ := hnames.2 first List.mem_cons_self
      rcases hfirst with htaken | hearlier
      · simp [htaken] at hfree
      · exact hnew hearlier
    · next hfirst =>
      simp only [Bool.or_eq_true, decide_eq_true_eq, not_or, Bool.not_eq_true] at hfirst
      rw [ih, List.nodup_cons, List.forall_mem_cons]
      simp only [List.mem_append, List.mem_singleton, not_or]
      constructor
      · rintro ⟨hnodup, hall⟩
        exact ⟨⟨fun hmem => (hall first hmem).2.2 rfl, hnodup⟩, hfirst,
          fun n hn => ⟨(hall n hn).1, (hall n hn).2.1⟩⟩
      · rintro ⟨⟨hnot, hnodup⟩, -, hall⟩
        exact ⟨hnodup, fun n hn => ⟨(hall n hn).1, (hall n hn).2, fun heq => hnot (heq ▸ hn)⟩⟩

theorem duplicate?_eq_some_iff :
    duplicate? isTaken earlier names = some name ↔
      ∃ before after, names = before ++ name :: after ∧
        duplicate? isTaken earlier before = none ∧
        (isTaken name ∨ name ∈ earlier ∨ name ∈ before) := by
  induction names generalizing earlier with
  | nil => simp [duplicate?]
  | cons first names ih =>
    by_cases hfirst : isTaken first || decide (first ∈ earlier)
    · -- The first name offends, so nothing can stand in front of the name that is found.
      have hfound : ∀ others, duplicate? isTaken earlier (first :: others) = some first := by
        intro others
        rw [duplicate?, if_pos hfirst]
      rw [hfound, Option.some_inj]
      simp only [Bool.or_eq_true, decide_eq_true_eq] at hfirst
      constructor
      · rintro rfl
        exact ⟨[], names, rfl, rfl, hfirst.imp_right .inl⟩
      · rintro ⟨before, after, heq, hnone, -⟩
        cases before with
        | nil => exact (List.cons.inj heq).1
        | cons other before =>
          obtain ⟨rfl, -⟩ := List.cons.inj heq
          rw [hfound] at hnone
          cases hnone
    · have hskip : ∀ others, duplicate? isTaken earlier (first :: others)
          = duplicate? isTaken (earlier ++ [first]) others := by
        intro others
        rw [duplicate?, if_neg hfirst]
      rw [hskip, ih]
      simp only [Bool.or_eq_true, decide_eq_true_eq, not_or] at hfirst
      constructor
      · rintro ⟨before, after, rfl, hnone, hoffends⟩
        refine ⟨first :: before, after, rfl, (hskip before).trans hnone, ?_⟩
        simp only [List.mem_append, List.mem_singleton] at hoffends
        simp only [List.mem_cons]
        tauto
      · rintro ⟨before, after, heq, hnone, hoffends⟩
        cases before with
        | nil =>
          obtain ⟨rfl, -⟩ := List.cons.inj heq
          simp [hfirst.1, hfirst.2] at hoffends
        | cons other before =>
          obtain ⟨rfl, rfl⟩ := List.cons.inj heq
          refine ⟨before, after, rfl, (hskip before).symm.trans hnone, ?_⟩
          simp only [List.mem_append, List.mem_singleton]
          simp only [List.mem_cons] at hoffends
          tauto

end Names

section Patterns

variable {grammar : String} {patterns : List String}

/-- The patterns are parsed one after the other, up to the first one that is not valid. -/
theorem parsePatterns_eq_mapM : parsePatterns grammar patterns = patterns.mapM fun p =>
    (Glob.parse p.toList).mapError (.invalidFilePattern grammar p) := by
  induction patterns with
  | nil => rfl
  | cons pattern patterns ih =>
    rw [parsePatterns, List.mapM_cons, ih]
    cases Glob.parse pattern.toList with
    | error cause => rfl
    | ok glob =>
      generalize List.mapM (m := Except CatalogError) _ patterns = parsed
      cases parsed <;> rfl

theorem mapError_parse_eq_ok_iff {pattern : String} {glob : Glob} {f : GlobError → CatalogError} :
    (Glob.parse pattern.toList).mapError f = .ok glob ↔ Glob.Parses pattern glob := by
  rw [Glob.Parses]
  cases Glob.parse pattern.toList <;> simp [Except.mapError]

theorem parsePatterns_eq_ok_iff :
    parsePatterns grammar patterns = .ok globs ↔ List.Forall₂ Glob.Parses patterns globs := by
  rw [parsePatterns_eq_mapM, mapM_eq_ok_iff]
  simp only [mapError_parse_eq_ok_iff]

theorem parsePatterns_eq_error_iff :
    parsePatterns grammar patterns = .error e ↔
      ∃ before pattern after valid cause, patterns = before ++ pattern :: after ∧
        List.Forall₂ Glob.Parses before valid ∧ Glob.parse pattern.toList = .error cause ∧
        e = .invalidFilePattern grammar pattern cause := by
  have hfailure : ∀ p : String, (Glob.parse p.toList).mapError (.invalidFilePattern grammar p)
      = .error e ↔ ∃ cause, Glob.parse p.toList = .error cause ∧
        e = .invalidFilePattern grammar p cause := by
    intro p
    cases Glob.parse p.toList <;> simp [Except.mapError, eq_comm]
  rw [parsePatterns_eq_mapM, mapM_eq_error_iff]
  simp only [mapError_parse_eq_ok_iff, hfailure, exists_and_left]

theorem any_isMatch_iff (h : List.Forall₂ Glob.Parses patterns globs) (t : Text) :
    globs.any (·.isMatch t) ↔
      ∃ pattern ∈ patterns, ∃ glob, Glob.Parses pattern glob ∧ glob.isMatch t := by
  induction h with
  | nil => simp
  | @cons pattern glob patterns globs hparse _ ih =>
    have hfirst : (∃ other, Glob.Parses pattern other ∧ other.isMatch t) ↔ glob.isMatch t := by
      constructor
      · rintro ⟨other, hother, hmatch⟩
        rw [Glob.Parses, hparse] at hother
        cases hother
        exact hmatch
      · intro hmatch
        exact ⟨glob, hparse, hmatch⟩
    rw [List.any_cons, Bool.or_eq_true, ih, List.exists_mem_cons_iff, hfirst]

end Patterns

/-- A grammar has the name. -/
def Taken (c : Catalog ε) (name : String) : Prop := ∃ info ∈ c.all, name ∈ info.names

/-- The index has the names of the grammars, with their positions, and the patterns of each grammar
are parsed. -/
structure WellFormed (c : Catalog ε) : Prop where
  lookup_eq_some_iff : ∀ name position, c.index.lookup name = some position ↔
    ∃ info, c.all[position]? = some info ∧ name ∈ info.names
  names_ne_nil : ∀ info ∈ c.all, info.names ≠ []
  parses : ∀ entry ∈ c.entries, List.Forall₂ Glob.Parses entry.info.filePatterns entry.globs

namespace WellFormed

theorem find?_eq_some_iff (h : c.WellFormed) :
    c.find? name = some info ↔ info ∈ c.all ∧ name ∈ info.names := by
  rw [find?_eq, Option.bind_eq_some_iff]
  constructor
  · rintro ⟨position, hlookup, hinfo⟩
    obtain ⟨other, hother, hname⟩ := (h.lookup_eq_some_iff name position).1 hlookup
    rw [hinfo] at hother
    cases hother
    exact ⟨List.mem_of_getElem? hinfo, hname⟩
  · rintro ⟨hinfo, hname⟩
    obtain ⟨position, hposition⟩ := List.mem_iff_getElem?.1 hinfo
    exact ⟨position, (h.lookup_eq_some_iff name position).2 ⟨info, hposition, hname⟩, hposition⟩

theorem find?_eq_none_iff (h : c.WellFormed) : c.find? name = none ↔ ¬ c.Taken name := by
  rw [Option.eq_none_iff_forall_ne_some]
  simp only [ne_eq, h.find?_eq_some_iff, Taken, not_exists]

theorem isSome_lookup_iff (h : c.WellFormed) :
    (c.index.lookup name).isSome ↔ c.Taken name := by
  rw [Option.isSome_iff_exists]
  simp only [h.lookup_eq_some_iff, Taken, List.mem_iff_getElem?]
  constructor
  · rintro ⟨position, info, hposition, hname⟩
    exact ⟨info, ⟨position, hposition⟩, hname⟩
  · rintro ⟨info, ⟨position, hposition⟩, hname⟩
    exact ⟨position, info, hposition, hname⟩

/-- Grammars with a common name are the same grammar. -/
theorem eq_of_common_name (h : c.WellFormed) {other : GrammarInfo ε} (hinfo : info ∈ c.all)
    (hother : other ∈ c.all) (hname : name ∈ info.names) (hname' : name ∈ other.names) :
    info = other := by
  have hfind := h.find?_eq_some_iff.2 ⟨hinfo, hname⟩
  rw [h.find?_eq_some_iff.2 ⟨hother, hname'⟩] at hfind
  exact (Option.some.inj hfind).symm

theorem nodup_all (h : c.WellFormed) : c.all.Nodup := by
  rw [List.nodup_iff_getElem?_ne_getElem?]
  intro i j hij hj heq
  obtain ⟨name, hname⟩ := List.exists_mem_of_ne_nil _ (h.names_ne_nil _ (List.getElem_mem hj))
  have hj' := List.getElem?_eq_getElem hj
  have hindex := (h.lookup_eq_some_iff name i).2 ⟨_, heq.trans hj', hname⟩
  rw [(h.lookup_eq_some_iff name j).2 ⟨_, hj', hname⟩] at hindex
  exact absurd (Option.some.inj hindex) (Nat.ne_of_gt hij)

/-- The grammars that are found for a path: those with a pattern that matches its last component. -/
theorem forPath_eq (h : c.WellFormed) (path : Text) :
    (c.forPath path).Sublist c.all ∧ ∀ info, info ∈ c.forPath path ↔
      info ∈ c.all ∧ Path.endsInSlash path = false ∧
        ∃ t, Path.baseName? path = some t ∧ info.MatchesName t := by
  unfold forPath
  split
  · next hslash => exact ⟨List.nil_sublist _, fun info => by simp [hslash]⟩
  · next hslash =>
    split
    · next hnone => exact ⟨List.nil_sublist _, fun info => by simp [hnone]⟩
    · next t ht =>
      refine ⟨List.filter_sublist.map _, fun info => ?_⟩
      simp only [List.mem_map, List.mem_filter, all, Bool.not_eq_true _ ▸ hslash, ht,
        Option.some.injEq, exists_eq_left', true_and]
      constructor
      · rintro ⟨entry, ⟨hentry, hmatch⟩, rfl⟩
        exact ⟨⟨entry, hentry, rfl⟩, (any_isMatch_iff (h.parses entry hentry) t).1 hmatch⟩
      · rintro ⟨⟨entry, hentry, rfl⟩, hmatch⟩
        exact ⟨entry, ⟨hentry, (any_isMatch_iff (h.parses entry hentry) t).2 hmatch⟩, rfl⟩

end WellFormed

/-- The names may be given to a grammar: they are distinct, and no grammar has one of them. -/
def FreeNames (c : Catalog ε) (names : List String) : Prop :=
  names.Nodup ∧ ∀ n ∈ names, ¬ c.Taken n

/-- The grammar can be registered. -/
structure Admits (c : Catalog ε) (info : GrammarInfo ε) : Prop where
  names_ne_nil : info.names ≠ []
  free : c.FreeNames info.names
  valid : ∀ pattern ∈ info.filePatterns, ∃ glob, Glob.Parses pattern glob

/-- Why the grammar is refused: the first thing that is wrong with it. Names come before
patterns. -/
inductive Refuses (c : Catalog ε) (info : GrammarInfo ε) : CatalogError → Prop
  | noNames (hnames : info.names = []) : Refuses c info .noNames
  | duplicateName {before after : List String} {name : String}
    (hnames : info.names = before ++ name :: after) (hfree : c.FreeNames before)
    (hoffends : c.Taken name ∨ name ∈ before) : Refuses c info (.duplicateName name)
  | invalidFilePattern {before after : List String} {pattern : String} {cause : GlobError}
    (hnames : info.names ≠ []) (hfree : c.FreeNames info.names)
    (hpatterns : info.filePatterns = before ++ pattern :: after)
    (hvalid : ∀ p ∈ before, ∃ glob, Glob.Parses p glob)
    (hcause : Glob.parse pattern.toList = .error cause) :
    Refuses c info (.invalidFilePattern info.name pattern cause)

theorem exists_globs_iff {patterns : List String} :
    (∃ globs, List.Forall₂ Glob.Parses patterns globs) ↔
      ∀ p ∈ patterns, ∃ glob, Glob.Parses p glob := by
  induction patterns with
  | nil => simp
  | cons pattern patterns ih =>
    rw [List.forall_mem_cons, ← ih]
    constructor
    · rintro ⟨_, hall⟩
      obtain ⟨glob, globs, hparse, hmore, rfl⟩ := List.forall₂_cons_left_iff.1 hall
      exact ⟨⟨glob, hparse⟩, globs, hmore⟩
    · rintro ⟨⟨glob, hparse⟩, globs, hmore⟩
      exact ⟨glob :: globs, .cons hparse hmore⟩

namespace WellFormed

theorem freeNames_iff (h : c.WellFormed) {names : List String} :
    duplicate? (fun n => (c.index.lookup n).isSome) [] names = none ↔ c.FreeNames names := by
  rw [duplicate?_eq_none_iff, FreeNames]
  simp only [← h.isSome_lookup_iff, Bool.not_eq_true, List.not_mem_nil, not_false_iff, and_true]

theorem register_of_refuses (h : c.WellFormed) (hrefuses : c.Refuses info e) :
    c.register info = (.error e, c) := by
  cases hrefuses with
  | noNames hnames => simp [register, hnames]
  | @duplicateName before after name hnames hfree hoffends =>
    have hfound : duplicate? (fun n => (c.index.lookup n).isSome) [] info.names = some name := by
      refine duplicate?_eq_some_iff.2 ⟨before, after, hnames, h.freeNames_iff.2 hfree, ?_⟩
      exact hoffends.imp h.isSome_lookup_iff.2 .inr
    have hne : info.names ≠ [] := by simp [hnames]
    simp [register, hfound, hne]
  | @invalidFilePattern before after pattern cause hnames hfree hpatterns hvalid hcause =>
    obtain ⟨valid, hvalid⟩ := exists_globs_iff.2 hvalid
    have hparse : parsePatterns info.name info.filePatterns
        = .error (.invalidFilePattern info.name pattern cause) :=
      parsePatterns_eq_error_iff.2
        ⟨before, pattern, after, valid, cause, hpatterns, hvalid, hcause, rfl⟩
    simp [register, hnames, h.freeNames_iff.2 hfree, hparse]

theorem register_of_admits (h : c.WellFormed) (hadmits : c.Admits info) :
    ∃ globs, List.Forall₂ Glob.Parses info.filePatterns globs ∧
      c.register info = (.ok (), c.add info globs) := by
  obtain ⟨globs, hglobs⟩ := exists_globs_iff.2 hadmits.valid
  refine ⟨globs, hglobs, ?_⟩
  simp [register, hadmits.names_ne_nil, h.freeNames_iff.2 hadmits.free,
    parsePatterns_eq_ok_iff.2 hglobs]

theorem admits_or_refuses (h : c.WellFormed) (info : GrammarInfo ε) :
    c.Admits info ∨ ∃ e, c.Refuses info e := by
  by_cases hnames : info.names = []
  · exact .inr ⟨_, .noNames hnames⟩
  cases hdup : duplicate? (fun n => (c.index.lookup n).isSome) [] info.names with
  | some name =>
    obtain ⟨before, after, heq, hnone, hoffends⟩ := duplicate?_eq_some_iff.1 hdup
    refine .inr ⟨_, .duplicateName heq (h.freeNames_iff.1 hnone) ?_⟩
    exact hoffends.imp h.isSome_lookup_iff.1 fun h => h.resolve_left (List.not_mem_nil)
  | none =>
    have hfree := h.freeNames_iff.1 hdup
    cases hparse : parsePatterns info.name info.filePatterns with
    | ok globs =>
      have hglobs := parsePatterns_eq_ok_iff.1 hparse
      exact .inl ⟨hnames, hfree, exists_globs_iff.1 ⟨globs, hglobs⟩⟩
    | error e =>
      obtain ⟨before, pattern, after, valid, cause, heq, hvalid, hcause, rfl⟩ :=
        parsePatterns_eq_error_iff.1 hparse
      exact .inr ⟨_, .invalidFilePattern hnames hfree heq
        (exists_globs_iff.1 ⟨valid, hvalid⟩) hcause⟩

/-- A registration is refused and changes nothing, or it adds the grammar. -/
theorem register_cases (h : c.WellFormed) (info : GrammarInfo ε) :
    (∃ e, c.Refuses info e ∧ c.register info = (.error e, c)) ∨
    (c.Admits info ∧ ∃ globs, List.Forall₂ Glob.Parses info.filePatterns globs ∧
      c.register info = (.ok (), c.add info globs)) := by
  rcases h.admits_or_refuses info with hadmits | ⟨e, hrefuses⟩
  · exact .inr ⟨hadmits, h.register_of_admits hadmits⟩
  · exact .inl ⟨e, hrefuses, h.register_of_refuses hrefuses⟩

theorem register_eq_error_iff (h : c.WellFormed) :
    (c.register info).1 = .error e ↔ c.Refuses info e := by
  constructor
  · intro hcall
    rcases h.register_cases info with ⟨e', hrefuses, heq⟩ | ⟨-, globs, -, heq⟩
    · rw [heq] at hcall
      cases hcall
      exact hrefuses
    · rw [heq] at hcall
      cases hcall
  · intro hrefuses
    rw [h.register_of_refuses hrefuses]

theorem register_eq_ok_iff (h : c.WellFormed) :
    (c.register info).1 = .ok () ↔ c.Admits info := by
  constructor
  · intro hcall
    rcases h.register_cases info with ⟨e, -, heq⟩ | ⟨hadmits, -⟩
    · rw [heq] at hcall
      cases hcall
    · exact hadmits
  · intro hadmits
    obtain ⟨globs, -, heq⟩ := h.register_of_admits hadmits
    rw [heq]

theorem eq_of_register_eq_error (h : c.WellFormed) (hcall : c.register info = (.error e, d)) :
    d = c := by
  rcases h.register_cases info with ⟨e', -, heq⟩ | ⟨-, globs, -, heq⟩
  · rw [heq] at hcall
    cases hcall
    rfl
  · rw [heq] at hcall
    cases hcall

theorem all_of_register_eq_ok (h : c.WellFormed) (hcall : c.register info = (.ok (), d)) :
    d.all = c.all ++ [info] := by
  rcases h.register_cases info with ⟨e', -, heq⟩ | ⟨-, globs, -, heq⟩
  · rw [heq] at hcall
    cases hcall
  · rw [heq] at hcall
    cases hcall
    exact all_add c info globs

/-- The new grammar stands at the end, and its names lead to it. -/
theorem add (h : c.WellFormed) (hnames : info.names ≠ []) (hfree : ∀ n ∈ info.names, ¬ c.Taken n)
    (hglobs : List.Forall₂ Glob.Parses info.filePatterns globs) :
    (c.add info globs).WellFormed where
  lookup_eq_some_iff name position := by
    have hlen : c.entries.length = c.all.length := by simp [all]
    rw [all_add, Catalog.add, lookup_indexNames, hlen]
    rcases Nat.lt_trichotomy position c.all.length with hlt | rfl | hgt
    · rw [List.getElem?_append_left hlt]
      split
      · next hname =>
        refine iff_of_false (fun heq => ?_) (fun htaken => ?_)
        · exact Nat.ne_of_gt hlt (Option.some.inj heq)
        · obtain ⟨other, hother, hname'⟩ := htaken
          exact hfree name hname ⟨other, List.mem_of_getElem? hother, hname'⟩
      · exact h.lookup_eq_some_iff name position
    · rw [List.getElem?_concat_length]
      split
      · next hname => simp [hname]
      · next hname =>
        refine iff_of_false (fun heq => ?_) (by simp [hname])
        obtain ⟨other, hother, -⟩ := (h.lookup_eq_some_iff name _).1 heq
        simp at hother
    · have hnone : (c.all ++ [info])[position]? = none := by
        rw [List.getElem?_eq_none_iff, List.length_append, List.length_singleton]
        omega
      rw [hnone]
      refine iff_of_false (fun heq => ?_) (by simp)
      split at heq
      · exact Nat.ne_of_lt hgt (Option.some.inj heq)
      · obtain ⟨other, hother, -⟩ := (h.lookup_eq_some_iff name _).1 heq
        rw [List.getElem?_eq_none (Nat.le_of_lt hgt)] at hother
        cases hother
  names_ne_nil other hother := by
    rw [all_add, List.mem_append, List.mem_singleton] at hother
    rcases hother with hother | rfl
    · exact h.names_ne_nil other hother
    · exact hnames
  parses entry hentry := by
    rcases List.mem_append.1 hentry with hentry | hentry
    · exact h.parses entry hentry
    · rw [List.mem_singleton.1 hentry]
      exact hglobs

theorem register (h : c.WellFormed) (info : GrammarInfo ε) : (c.register info).2.WellFormed := by
  rcases h.register_cases info with ⟨e, -, heq⟩ | ⟨hadmits, globs, hglobs, heq⟩
  · rwa [heq]
  · rw [heq]
    exact h.add hadmits.names_ne_nil hadmits.free.2 hglobs

end WellFormed

theorem wellFormed_empty : (∅ : Catalog ε).WellFormed where
  lookup_eq_some_iff name position := iff_of_false (by simp [EmptyCollection.emptyCollection])
    (by simp)
  names_ne_nil info hinfo := by simp at hinfo
  parses entry hentry := absurd hentry List.not_mem_nil

theorem WellFormed.registerAll (h : c.WellFormed) (infos : List (GrammarInfo ε)) :
    (c.registerAll infos).WellFormed := by
  induction infos generalizing c with
  | nil => exact h
  | cons info infos ih => exact ih (h.register info)

theorem wellFormed_builtin : (builtin : Catalog ε).WellFormed := wellFormed_empty.registerAll _

theorem wellFormed_of_start (h : c = ∅ ∨ c = builtin) : c.WellFormed := by
  rcases h with rfl | rfl
  · exact wellFormed_empty
  · exact wellFormed_builtin

/-- Those of the grammars whose registration succeeds when they are registered in order. -/
def accepted (c : Catalog ε) : List (GrammarInfo ε) → List (GrammarInfo ε)
  | [] => []
  | info :: infos =>
    match c.register info with
    | (.ok (), d) => info :: d.accepted infos
    | (.error _, d) => d.accepted infos

theorem WellFormed.all_registerAll (h : c.WellFormed) (infos : List (GrammarInfo ε)) :
    (c.registerAll infos).all = c.all ++ c.accepted infos := by
  induction infos generalizing c with
  | nil => simp [Catalog.registerAll, accepted]
  | cons info infos ih =>
    rw [Catalog.registerAll, List.foldl_cons]
    refine (ih (h.register info)).trans ?_
    rcases h.register_cases info with ⟨e, -, heq⟩ | ⟨-, globs, -, heq⟩
    · simp [accepted, heq]
    · simp [accepted, heq, List.append_assoc]

/-- Whether all patterns are valid. -/
def validPatterns (patterns : List String) : Bool :=
  patterns.all fun p => (Glob.parse p.toList).toOption.isSome

theorem exists_parses_of_validPatterns {patterns : List String} (h : validPatterns patterns) :
    ∀ p ∈ patterns, ∃ glob, Glob.Parses p glob := by
  intro p hp
  have hsome := List.all_eq_true.1 h p hp
  cases hparse : Glob.parse p.toList with
  | error cause => simp [hparse, Except.toOption] at hsome
  | ok glob => exact ⟨glob, hparse⟩

/-- No grammar of the catalog to begin with is refused. -/
theorem accepted_builtin : (∅ : Catalog ε).accepted [cInfo, iniInfo] = [cInfo, iniInfo] := by
  have hpatterns : validPatterns (cInfo : GrammarInfo Unit).filePatterns ∧
      validPatterns (iniInfo : GrammarInfo Unit).filePatterns := by
    decide +kernel
  have hc : (∅ : Catalog ε).Admits cInfo :=
    ⟨by simp [cInfo], ⟨by simp [cInfo], fun n _ => by simp [Taken]⟩,
      exists_parses_of_validPatterns hpatterns.1⟩
  obtain ⟨globs, hglobs, hcall⟩ := wellFormed_empty.register_of_admits hc
  have hini : ((∅ : Catalog ε).add cInfo globs).Admits iniInfo :=
    ⟨by simp [iniInfo], ⟨by simp [iniInfo], by simp [Taken, cInfo, iniInfo]⟩,
      exists_parses_of_validPatterns hpatterns.2⟩
  obtain ⟨globs', -, hcall'⟩ :=
    (wellFormed_empty.add hc.names_ne_nil hc.free.2 hglobs).register_of_admits hini
  simp [accepted, hcall, hcall']

theorem all_builtin : (builtin : Catalog ε).all = [cInfo, iniInfo] := by
  rw [builtin, wellFormed_empty.all_registerAll, accepted_builtin, all_empty, List.nil_append]

/-- Whatever has been registered in an empty catalog or in the one to begin with, the catalog lists
the grammars whose registration succeeded, in order and each once. A further registration succeeds
exactly for a grammar with names, all new and distinct, and valid patterns. It fails for the first
thing that is wrong, and then changes nothing. A name finds the one grammar that has it, a media
type finds the grammars that declare it, and a path those with a pattern that matches its last
component, in the order of the list. The path of a directory finds none. -/
theorem registration_is_atomic_and_indexed {start : Catalog ε}
    (hstart : start = ∅ ∨ start = builtin) (hc : start.registerAll infos = c) :
    (c.all = start.all ++ start.accepted infos ∧ c.all.Nodup) ∧
    (∀ info, ((c.register info).1 = .ok () ↔ c.Admits info) ∧
      (∀ e, (c.register info).1 = .error e ↔ c.Refuses info e) ∧
      (∀ e d, c.register info = (.error e, d) → d = c) ∧
      ∀ d, c.register info = (.ok (), d) → d.all = c.all ++ [info]) ∧
    (∀ name info, c.find? name = some info ↔ info ∈ c.all ∧ name ∈ info.names) ∧
    (∀ name, c.find? name = none ↔ ∀ info ∈ c.all, name ∉ info.names) ∧
    (∀ mimeType, (c.forMimeType mimeType).Sublist c.all ∧ (c.forMimeType mimeType).Nodup ∧
      ∀ info, info ∈ c.forMimeType mimeType ↔ info ∈ c.all ∧ mimeType ∈ info.mimeTypes) ∧
    ∀ path, (c.forPath path).Sublist c.all ∧ (c.forPath path).Nodup ∧
      ∀ info, info ∈ c.forPath path ↔ info ∈ c.all ∧ Path.endsInSlash path = false ∧
        ∃ t, Path.baseName? path = some t ∧ info.MatchesName t := by
  have hbegin := wellFormed_of_start hstart
  subst hc
  have h := hbegin.registerAll infos
  refine ⟨⟨hbegin.all_registerAll infos, h.nodup_all⟩, fun info => ?_,
    fun name info => h.find?_eq_some_iff, fun name => ?_, fun mimeType => ?_, fun path => ?_⟩
  · exact ⟨h.register_eq_ok_iff, fun e => h.register_eq_error_iff,
      fun e d => h.eq_of_register_eq_error, fun d => h.all_of_register_eq_ok⟩
  · rw [h.find?_eq_none_iff]
    simp only [Taken, not_exists, not_and]
  · exact ⟨List.filter_sublist, h.nodup_all.filter _, fun info => by simp [forMimeType]⟩
  · obtain ⟨hsublist, hmem⟩ := h.forPath_eq path
    exact ⟨hsublist, h.nodup_all.sublist hsublist, hmem⟩

/-- A grammar is refused if another one has the second of its names. The next one is found by its
name and by its pattern, but not for the path of a directory. -/
theorem registration_is_atomic_and_indexed_words : ∃ c : Catalog Unit,
    builtin.registerAll [⟨⟨"words", none⟩, ["words", "ini"], [], []⟩,
      ⟨⟨"words", none⟩, ["words", "w"], [], ["*.words"]⟩] = c ∧
    c.all.map (·.name) = ["c", "ini", "words"] ∧ c.all.Nodup ∧
    ∃ info, c.find? "w" = some info ∧ info ∈ c.forPath "a/list.words".toList ∧
      info ∉ c.forPath "a/list.words/".toList := by
  obtain ⟨c, hc⟩ : ∃ c : Catalog Unit,
      builtin.registerAll [⟨⟨"words", none⟩, ["words", "ini"], [], []⟩,
        ⟨⟨"words", none⟩, ["words", "w"], [], ["*.words"]⟩] = c := ⟨_, rfl⟩
  have hall : c.all.map (·.name) = ["c", "ini", "words"] := by
    subst hc
    decide +kernel
  have hfound : (c.find? "w").map (·.filePatterns) = some ["*.words"] := by
    subst hc
    decide +kernel
  obtain ⟨info, hinfo, hpatterns⟩ := Option.map_eq_some_iff.1 hfound
  obtain ⟨⟨-, hnodup⟩, -, hfind, -, -, hpath⟩ := registration_is_atomic_and_indexed (.inr rfl) hc
  have hmem := ((hfind "w" info).1 hinfo).1
  have hmatches : info.MatchesName "list.words".toList := by
    rw [GrammarInfo.matchesName_iff, hpatterns]
    decide +kernel
  refine ⟨c, hc, hall, hnodup, info, hinfo, ?_, ?_⟩
  · exact ((hpath "a/list.words".toList).2.2 info).2
      ⟨hmem, by decide, _, by decide +kernel, hmatches⟩
  · intro hslash
    have hfile := ((hpath "a/list.words/".toList).2.2 info).1 hslash
    exact absurd hfile.2.1 (by decide)

/-- A pattern of a grammar matches the last component of a path, but the path is that of a
directory, for which there is no grammar. -/
theorem directories_have_no_grammar :
    (cInfo : GrammarInfo Unit) ∈ builtin.all ∧
    Path.baseName? "a.c/".toList = some "a.c".toList ∧
    (cInfo : GrammarInfo Unit).MatchesName "a.c".toList ∧
    (builtin : Catalog Unit).forPath "a.c/".toList = [] :=
  ⟨by simp [all_builtin], by decide +kernel, by decide +kernel, rfl⟩

end Catalog

end ModalLexer
