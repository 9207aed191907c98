import ModalLexer.Grammar.Basic

/-! # The engine

An engine runs a grammar over a text and hands out one token at a time. A request takes a token from
the queue; while the queue is empty, passes are made over the rules of the current mode. A token of
the class of stops ends the scan, and is the answer to every later request.

A pass that neither takes text nor queues a token is idle. After a fixed number of idle passes in a
row the scan ends with an error, so every request has an answer. Passes tell the error that they
report as a token, if there is one.

Where additions to the score are checked, a request in which the score leaves the machine word is
abandoned. Where they are not, the score wraps around.
-/

namespace ModalLexer

/-- The modes of a sound grammar, with the state of a scan in it. -/
structure Engine (ε : Type) where
  modes : List (CompiledMode ε)
  state : State ε

/-- The number of idle passes in a row that ends a scan. -/
def maxIdlePasses : Nat := 64

namespace Engine

variable {ε : Type}

def start (g : Grammar ε) (text : Text) : Except GrammarError (Engine ε) := do
  let modes ← g.compile
  return { modes, state := { grammar := g.name, modeNames := modes.map (·.name), text } }

/-- Adds stop markers behind those already there. -/
def addMarkers (e : Engine ε) (markers : List Text) : Engine ε :=
  { e with state := e.state.addMarkers markers }

def withExtension (e : Engine ε) (extension : ε) : Engine ε :=
  { e with state := { e.state with extension := some extension } }

/-- Tries the rules in order, numbered from `index`, until one fires or fails. An error is reported
for `mode`, and without a rule that fires the scan stops. -/
def tryRules (mode : String) (index : Nat) :
    List (CompiledRule ε) → State ε → Except Fault (Option RuleError) × State ε
  | [], s => (.ok none, s.push ⟨some .stopLexer, []⟩)
  | rule :: rules, s =>
    match rule.exec { s with rule := index } with
    | (.ok true, s) => (.ok none, s)
    | (.ok false, s) => tryRules mode (index + 1) rules s
    | (.error (.error e), s) => (.ok (some e), s.fail e mode)
    | (.error (.fault f), s) => (.error f, s)

/-- One pass: the end of the text and the stop markers come first, then the rules of the current
mode. -/
def pass (modes : List (CompiledMode ε)) (s : State ε) :
    Except Fault (Option RuleError) × State ε :=
  if s.text.isEmpty then (.ok none, s.push ⟨some .stopEndOfString, []⟩)
  else
    match s.markers.find? (·.isPrefixOf s.text) with
    | some marker =>
      (.ok none, { s with text := s.text.drop marker.length }.push ⟨some .stopLexer, marker⟩)
    | none =>
      match modes[s.mode]? with
      | some mode => tryRules mode.name 0 mode.rules s
      | none => (.error .missingMode, s)

/-- Every intervention in the procedures of the modes satisfies `Q`. -/
def Allows (Q : Intervention ε → Prop) (modes : List (CompiledMode ε)) : Prop :=
  ∀ mode ∈ modes, ∀ r ∈ mode.rules, r.Allows Q

/-- No rule of the modes intervenes in the scan. -/
def Plain (modes : List (CompiledMode ε)) : Prop := ∀ mode ∈ modes, ∀ r ∈ mode.rules, r.Plain

section

variable {R : Text → Text → Prop} {Q : Intervention ε → Prop} {modes : List (CompiledMode ε)}

theorem Plain.allows (h : Plain modes) : Allows Q modes :=
  fun mode hmode r hr => (h mode hmode r hr).allows

theorem allows_of_forall (h : ∀ i, Q i) (modes : List (CompiledMode ε)) : Allows Q modes :=
  fun _ _ r _ => r.allows_of_forall h

theorem tryRules_text (hR : Consuming R) (mode : String) (index : Nat)
    {rules : List (CompiledRule ε)}
    (hrules : ∀ r ∈ rules, r.Allows fun i => ∀ s, R (i.run s).2.text s.text) (s : State ε) :
    R (tryRules mode index rules s).2.text s.text := by
  induction rules generalizing index s with
  | nil => exact hR.of_suffix (List.suffix_refl _)
  | cons rule rules ih =>
    obtain ⟨hfirst, hmore⟩ := List.forall_mem_cons.1 hrules
    have hrule := rule.exec_text hR hfirst { s with rule := index }
    simp only [tryRules]
    split
    · next s' h => rwa [h] at hrule
    · next s' h => rw [h] at hrule; exact hR.trans (ih _ hmore s') hrule
    · next e s' h => rw [h] at hrule; exact hrule
    · next f s' h => rwa [h] at hrule

theorem pass_text (hR : Consuming R)
    (hmodes : Allows (fun i => ∀ s, R (i.run s).2.text s.text) modes) (s : State ε) :
    R (pass modes s).2.text s.text := by
  simp only [pass]
  split
  · exact hR.of_suffix (List.suffix_refl _)
  · split
    · exact hR.of_suffix (List.drop_suffix _ _)
    · split
      · next mode hmode =>
        exact tryRules_text hR _ _ (hmodes mode (List.mem_of_getElem? hmode)) s
      · exact hR.of_suffix (List.suffix_refl _)

theorem pass_suffix (hplain : Plain modes) (s : State ε) : (pass modes s).2.text <:+ s.text :=
  pass_text consuming_suffix hplain.allows s

/-- No pass leaves more text than it finds, whatever its rules are. -/
theorem byteSize_pass_le (modes : List (CompiledMode ε)) (s : State ε) :
    (pass modes s).2.text.byteSize ≤ s.text.byteSize :=
  pass_text consuming_byteSize (allows_of_forall Intervention.byteSize_le modes) s

end

/-- Makes passes until a token is queued, after `idle` idle passes in a row. -/
def fillAfter (modes : List (CompiledMode ε)) (idle : Nat) (s : State ε) :
    Except Fault (Option RuleError) × State ε :=
  match h : pass modes s with
  | (.error f, s') => (.error f, s')
  | (.ok e?, s') =>
    if !s'.queue.isEmpty then (.ok e?, s')
    else if hmoved : s'.text.byteSize ≠ s.text.byteSize then fillAfter modes 0 s'
    else if hidle : idle + 1 < maxIdlePasses then fillAfter modes (idle + 1) s'
    else (.ok (some (.noProgress (idle + 1))), s'.fail (.noProgress (idle + 1)) s'.modeName)
termination_by (maxIdlePasses + 1) * s.text.byteSize + (maxIdlePasses - idle)
decreasing_by
  all_goals
    have hle := byteSize_pass_le modes s
    rw [h] at hle
    simp only [maxIdlePasses] at *
    omega

def fill (modes : List (CompiledMode ε)) (s : State ε) :
    Except Fault (Option RuleError) × State ε :=
  if s.queue.isEmpty then fillAfter modes 0 s else (.ok none, s)

/-- Takes the next token from the queue, and ends the scan if it is a stop. -/
def dequeue (s : State ε) : Token × State ε :=
  let (token, s) := match s.queue.pop? with
    | some (token, queue) => (token, { s with queue })
    | none => (⟨some .stopError, "empty output queue".toList⟩, s)
  if token.isStop then (token, { s with stop := some token }) else (token, s)

/-- The next token. A fault abandons the request, and what was done before it stays done. -/
def nextToken (e : Engine ε) : Except Fault Token × Engine ε :=
  match e.state.stop with
  | some stop => (.ok stop, e)
  | none =>
    match fill e.modes e.state with
    | (.error f, s) => (.error f, { e with state := s })
    | (.ok _, s) =>
      let (token, s) := dequeue s
      (.ok token, { e with state := s })

/-- The next token where additions to the score are checked. A score that leaves the machine word
abandons the request. -/
def checkedToken (e : Engine ε) : Except Fault Token × Engine ε :=
  let (answer, e) := e.nextToken
  if e.state.overflowed then (.error .overflow, e) else (answer, e)

def debug (e : Engine ε) : String :=
  let s := e.state
  let stop := match s.stop with
    | none => "None"
    | some token => "Some(" ++ token.debug ++ ")"
  "Engine \x7b grammar: " ++ quoteString s.grammar ++ ", mode: " ++ quoteString s.modeName
    ++ s!", depth: {s.depth}, remaining: {s.text.byteSize}, queued: {s.queue.size}"
    ++ s!", score: {s.score}, stop: " ++ stop ++ ", .. \x7d"

end Engine

end ModalLexer
