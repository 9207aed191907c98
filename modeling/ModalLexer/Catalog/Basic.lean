import ModalLexer.FileName.Glob
import ModalLexer.FileName.Path
import ModalLexer.Grammar.Basic

/-! # A catalog of grammars

A catalog lists grammars with the names, media types and file name patterns under which they are
found, in the order of their registration. No two grammars of a catalog share a name: an index has
the position of the grammar for every name.
-/

namespace ModalLexer

/-- A grammar with all that it is found by. Its first name is the canonical one. -/
structure GrammarInfo (ε : Type) where
  grammar : Grammar ε
  names : List String
  mimeTypes : List String := []
  filePatterns : List String := []

/-- The canonical name, or nothing without names. -/
def GrammarInfo.name {ε : Type} (info : GrammarInfo ε) : String := info.names.headD ""

/-- Why a grammar is not registered or not found. -/
inductive CatalogError where
  | noNames
  | duplicateName (name : String)
  | invalidFilePattern (grammar pattern : String) (cause : GlobError)
  | unknownGrammar (name : String)
deriving DecidableEq, Repr

def CatalogError.message : CatalogError → String
  | noNames => "grammar info has no names"
  | duplicateName name => "grammar name '" ++ name ++ "' already registered"
  | invalidFilePattern grammar pattern cause =>
    "grammar '" ++ grammar ++ "' has invalid file name pattern '" ++ pattern ++ "': "
      ++ cause.message
  | unknownGrammar name => "unknown grammar '" ++ name ++ "'"

namespace Catalog

/-- A registered grammar, with its file name patterns parsed. -/
structure Entry (ε : Type) where
  info : GrammarInfo ε
  globs : List Glob

/-- The first name that is taken, or that repeats one of the names before it. -/
def duplicate? (isTaken : String → Bool) (before : List String) : List String → Option String
  | [] => none
  | name :: names =>
    if isTaken name || name ∈ before then some name
    else duplicate? isTaken (before ++ [name]) names

/-- Parses the file name patterns of the grammar with the given name. -/
def parsePatterns (grammar : String) : List String → Except CatalogError (List Glob)
  | [] => .ok []
  | pattern :: patterns =>
    match Glob.parse pattern.toList with
    | .error cause => .error (.invalidFilePattern grammar pattern cause)
    | .ok glob => (parsePatterns grammar patterns).map (glob :: ·)

/-- The index with a position for each of the names. -/
def indexNames (position : Nat) (names : List String) (index : List (String × Nat)) :
    List (String × Nat) :=
  names.foldl (fun index name => (name, position) :: index) index

theorem snd_of_mem_indexNames {position : Nat} {names : List String} {index : List (String × Nat)}
    {item : String × Nat} (h : item ∈ indexNames position names index) :
    item.2 = position ∨ item ∈ index := by
  induction names generalizing index with
  | nil => exact .inr h
  | cons name names ih =>
    rcases ih h with hposition | hmem
    · exact .inl hposition
    · rcases List.mem_cons.1 hmem with rfl | hmem
      · exact .inl rfl
      · exact .inr hmem

/-- The names get the position, also if they had another one before. -/
theorem lookup_indexNames (position : Nat) (names : List String) (index : List (String × Nat))
    (name : String) :
    (indexNames position names index).lookup name
      = if name ∈ names then some position else index.lookup name := by
  induction names generalizing index with
  | nil => simp [indexNames]
  | cons first names ih =>
    rw [indexNames, List.foldl_cons]
    refine (ih _).trans ?_
    rw [List.lookup_cons]
    by_cases hmem : name ∈ names
    · simp [hmem]
    · by_cases hfirst : name = first
      · simp [hfirst]
      · simp [hmem, hfirst, beq_false_of_ne hfirst]

theorem mem_of_lookup {index : List (String × Nat)} {name : String} {position : Nat}
    (h : index.lookup name = some position) : (name, position) ∈ index := by
  obtain ⟨before, after, rfl, -⟩ := List.lookup_eq_some_iff.1 h
  simp

end Catalog

structure Catalog (ε : Type) where
  entries : List (Catalog.Entry ε) := []
  index : List (String × Nat) := []
  index_lt : ∀ item ∈ index, item.2 < entries.length := by simp

namespace Catalog

variable {ε : Type}

instance : EmptyCollection (Catalog ε) := ⟨{}⟩

/-- All grammars, in the order of registration. -/
def all (c : Catalog ε) : List (GrammarInfo ε) := c.entries.map (·.info)

/-- Adds a grammar behind the others, with its file name patterns parsed. -/
def add (c : Catalog ε) (info : GrammarInfo ε) (globs : List Glob) : Catalog ε where
  entries := c.entries ++ [⟨info, globs⟩]
  index := indexNames c.entries.length info.names c.index
  index_lt item hitem := by
    rw [List.length_append, List.length_singleton]
    rcases snd_of_mem_indexNames hitem with hposition | hmem
    · omega
    · have := c.index_lt item hmem
      omega

/-- Registers a grammar, with the answer and the catalog behind the call. -/
def register (c : Catalog ε) (info : GrammarInfo ε) : Except CatalogError Unit × Catalog ε :=
  if info.names.isEmpty then (.error .noNames, c)
  else
    match duplicate? (fun name => (c.index.lookup name).isSome) [] info.names with
    | some name => (.error (.duplicateName name), c)
    | none =>
      match parsePatterns info.name info.filePatterns with
      | .error e => (.error e, c)
      | .ok globs => (.ok (), c.add info globs)

/-- Registers grammars one after the other. Those that are refused are left out. -/
def registerAll (c : Catalog ε) (infos : List (GrammarInfo ε)) : Catalog ε :=
  infos.foldl (fun c info => (c.register info).2) c

/-- The grammar that is registered with the given name. -/
def find? (c : Catalog ε) (name : String) : Option (GrammarInfo ε) :=
  match h : c.index.lookup name with
  | some position =>
    some (c.entries.get ⟨position, c.index_lt (name, position) (mem_of_lookup h)⟩).info
  | none => none

def forMimeType (c : Catalog ε) (mimeType : String) : List (GrammarInfo ε) :=
  c.all.filter (mimeType ∈ ·.mimeTypes)

/-- The grammars with a pattern that matches the last component of a path. There are none for the
path of a directory. -/
def forPath (c : Catalog ε) (path : Text) : List (GrammarInfo ε) :=
  if Path.endsInSlash path then []
  else
    match Path.baseName? path with
    | none => []
    | some name => (c.entries.filter (·.globs.any (·.isMatch name))).map (·.info)

/-- The grammar with the given name, which is an error if there is none. -/
def resolve (c : Catalog ε) (name : String) : Except CatalogError (GrammarInfo ε) :=
  match c.find? name with
  | some info => .ok info
  | none => .error (.unknownGrammar name)

/-- The grammars with the given names, or all of them if no name is given. -/
def candidates (c : Catalog ε) (names : List String) : Except CatalogError (List (GrammarInfo ε)) :=
  if names.isEmpty then .ok c.all else names.mapM c.resolve

variable (c : Catalog ε) (info : GrammarInfo ε)

@[simp] theorem all_empty : (∅ : Catalog ε).all = [] := rfl

@[simp] theorem all_add (globs : List Glob) : (c.add info globs).all = c.all ++ [info] := by
  simp [all, add]

theorem find?_eq (name : String) :
    c.find? name = (c.index.lookup name).bind fun position => c.all[position]? := by
  unfold find?
  split
  · next position h =>
    have hlt : position < c.entries.length := c.index_lt (name, position) (mem_of_lookup h)
    simp [h, all, List.getElem?_eq_getElem hlt]
  · next h => simp [h]

end Catalog

end ModalLexer
