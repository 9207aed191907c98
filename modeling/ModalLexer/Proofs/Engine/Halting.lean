import ModalLexer.Proofs.Engine.Transfer

/-! # Halting is final

The owner of an engine may interleave requests in any order with the other operations on it: queue
tokens, take text, change score, mode, markers and data. Whatever the order is, the answers to the
requests are tokens that are no stops and then one stop for ever, and a request after that stop
changes nothing. The rules have to be plain for that: one that requests tokens itself may halt the
engine while a token that is no stop is still to be returned.
-/

namespace ModalLexer

variable {ε : Type}

/-- What the owner of an engine can do to it besides requesting tokens. -/
inductive Operation (ε : Type) where
  | push (token : Token)
  | consume (n : Nat)
  | emit (kind : TokenType) (n : Nat)
  /-- Any function of the text may serve as a scanner. It finds a token with the text to go on with,
  or nothing, or it is abandoned. -/
  | scan (scanner : Text → Except Fault (Option (Token × Text)))
  | addScore (delta : Int64)
  | enter (mode : String)
  | exit
  | addMarkers (markers : List Text)
  | attach (extension : ε)

namespace Operation

def perform : Operation ε → State ε → Except Interruption (State ε)
  | push token, s => .ok (s.push token)
  | consume n, s =>
    match s.consume n with
    | .ok (_, s) => .ok s
    | .error f => .error (.fault f)
  | emit kind n, s => (s.emit kind n).mapError .fault
  | scan scanner, s =>
    match scanner s.text with
    | .ok found => .ok (s.accept found).2
    | .error f => .error (.fault f)
  | addScore delta, s => .ok (s.addScore delta)
  | enter mode, s => (s.enter mode).mapError .error
  | exit, s => s.exit.mapError .error
  | addMarkers markers, s => .ok (s.addMarkers markers)
  | attach extension, s => .ok { s with extension := some extension }

theorem ok_of_mapError {α β γ : Type} {f : α → β} {x : Except α γ} {c : γ}
    (h : x.mapError f = .ok c) : x = .ok c := by
  cases x with
  | error a => cases h
  | ok c' => cases h; rfl

/-- A property that rules keep and that does not depend on the markers is kept by operations. -/
theorem perform_kept {P : State ε → Prop} (hP : State.Kept P)
    (hmarkers : ∀ {s : State ε} (markers : List Text), P s → P { s with markers })
    {op : Operation ε} {s s' : State ε} (h : op.perform s = .ok s') (hs : P s) : P s' := by
  cases op with
  | push token => cases h; exact hP.push hs token
  | consume n =>
    simp only [perform] at h
    split at h
    · next hconsume => cases h; exact hP.consume hs hconsume
    · cases h
  | emit kind n => exact hP.emit hs (ok_of_mapError h)
  | scan scanner =>
    simp only [perform] at h
    split at h
    · next found _ => cases h; exact hP.accept hs found
    · cases h
  | addScore delta => cases h; exact hP.addScore delta hs
  | enter mode => exact hP.of_enter hs (ok_of_mapError h)
  | exit => exact hP.of_exit hs (ok_of_mapError h)
  | addMarkers markers => cases h; exact hmarkers _ hs
  | attach extension =>
    cases h
    exact hP.contents s.text s.queue (some extension) hs

/-- No operation but a request ends a scan, and none takes back its end. -/
theorem stop_of_perform {op : Operation ε} {s s' : State ε} (h : op.perform s = .ok s') :
    s'.stop = s.stop := by
  have hkept : State.Kept fun t : State ε => t.stop = s.stop :=
    ⟨fun _ _ _ ht => ht, fun _ ht => ht, fun ht _ => ht, fun ht _ => ht⟩
  exact perform_kept hkept (fun _ ht => ht) h rfl

end Operation

inductive Call (ε : Type) where
  | next
  | operate (op : Operation ε)

namespace Engine

/-- The token that a call returns, if it is a request that is answered, and the engine behind it. An
operation that fails changes nothing. -/
def call (e : Engine ε) : Call ε → Option Token × Engine ε
  | .next =>
    let (answer, e) := e.nextToken
    (answer.toOption, e)
  | .operate op =>
    match op.perform e.state with
    | .ok s => (none, { e with state := s })
    | .error _ => (none, e)

/-- The answers to the requests among the calls, and the engine behind all calls. -/
def calls : List (Call ε) → Engine ε → List Token × Engine ε
  | [], e => ([], e)
  | c :: cs, e =>
    let (answer?, e) := e.call c
    let (answers, e) := calls cs e
    (answer?.toList ++ answers, e)

/-- The answers so far are no stops, or they end with copies of the stop that has ended the scan. -/
inductive Latched : List Token → Engine ε → Prop
  | live {answers : List Token} {e : Engine ε} (hlive : e.state.stop = none)
    (hanswers : ∀ token ∈ answers, token.isStop = false) : Latched answers e
  | halted {front : List Token} {e : Engine ε} {stop : Token} (copies : Nat)
    (hhalted : e.state.stop = some stop) (hstop : stop.isStop = true)
    (hfront : ∀ token ∈ front, token.isStop = false) :
    Latched (front ++ List.replicate (copies + 1) stop) e

variable {answers : List Token} {e : Engine ε}

theorem modes_call (e : Engine ε) (c : Call ε) : (e.call c).2.modes = e.modes := by
  cases c with
  | next => exact modes_nextToken e
  | operate op =>
    simp only [call]
    split <;> rfl

theorem Latched.next (hplain : Plain e.modes) (h : Latched answers e) :
    Latched (answers ++ (e.call .next).1.toList) (e.call .next).2 := by
  cases h with
  | live hlive hanswers =>
    cases hnext : e.nextToken with
    | mk answer e' =>
      cases answer with
      | error f =>
        have hstop : e'.state.stop = none := by
          simp only [nextToken, hlive] at hnext
          split at hnext
          · next hfill =>
            cases hnext
            exact (congrArg State.Frame.stop (frame_of_fill hplain hfill)).trans hlive
          · cases hnext
        simpa [call, hnext, Except.toOption] using Latched.live hstop hanswers
      | ok token =>
        obtain ⟨s, queue, -, -, rfl⟩ := nextToken_cases hplain hlive hnext
        cases htoken : token.isStop with
        | false =>
          have hall : ∀ t ∈ answers ++ [token], t.isStop = false := by
            intro t ht
            rcases List.mem_append.1 ht with hmem | hmem
            · exact hanswers t hmem
            · rw [List.mem_singleton.1 hmem, htoken]
          have hkept := Latched.live (e := { e with state := { s with queue, stop := none } }) rfl
            hall
          simpa [call, hnext, Except.toOption, htoken] using hkept
        | true =>
          have hended := Latched.halted
            (e := { e with state := { s with queue, stop := some token } }) 0 rfl htoken hanswers
          simpa [call, hnext, Except.toOption, htoken] using hended
  | @halted front _ stop copies hhalted hstop hfront =>
    have hnext := nextToken_of_halted hhalted
    have hmore := Latched.halted (copies + 1) hhalted hstop hfront
    rw [List.replicate_succ', ← List.append_assoc] at hmore
    simpa only [call, hnext, Except.toOption, Option.toList] using hmore

theorem Latched.operate (h : Latched answers e) (op : Operation ε) :
    Latched (answers ++ (e.call (.operate op)).1.toList) (e.call (.operate op)).2 := by
  cases hop : op.perform e.state with
  | error i => simpa [call, hop] using h
  | ok s =>
    have hsame : s.stop = e.state.stop := Operation.stop_of_perform hop
    have hkept : Latched answers { e with state := s } := by
      cases h with
      | live hlive hanswers => exact .live (hsame.trans hlive) hanswers
      | halted copies hhalted hstop hfront =>
        exact .halted copies (hsame.trans hhalted) hstop hfront
    simpa [call, hop] using hkept

theorem Latched.calls (hplain : Plain e.modes) (h : Latched answers e) (cs : List (Call ε)) :
    Latched (answers ++ (Engine.calls cs e).1) (Engine.calls cs e).2 := by
  induction cs generalizing answers e with
  | nil => simpa [Engine.calls] using h
  | cons c cs ih =>
    have hstep : Latched (answers ++ (e.call c).1.toList) (e.call c).2 := by
      cases c with
      | next => exact h.next hplain
      | operate op => exact h.operate op
    have hrest := ih (modes_call e c ▸ hplain) hstep
    rw [List.append_assoc] at hrest
    exact hrest

/-- What the answers look like, when the engine is halted, and what a request then does. -/
theorem Latched.summary (h : Latched answers e) :
    ∃ front copies stop, answers = front ++ List.replicate copies stop ∧
      (∀ token ∈ front, token.isStop = false) ∧ stop.isStop = true ∧
      (e.state.isHalted = true ↔ ∃ token ∈ answers, token.isStop = true) ∧
      ((∃ token ∈ answers, token.isStop = true) → e.nextToken = (.ok stop, e)) := by
  cases h with
  | live hlive hanswers =>
    have hnone : ¬ ∃ token ∈ answers, token.isStop = true := by
      rintro ⟨token, hmem, htoken⟩
      rw [hanswers token hmem] at htoken
      cases htoken
    refine ⟨answers, 0, ⟨some .stop, []⟩, by simp, hanswers, by decide, ?_, ?_⟩
    · simp [State.isHalted, hlive, hnone]
    · intro hsome
      exact absurd hsome hnone
  | @halted front _ stop copies hhalted hstop hfront =>
    have hmem : ∃ token ∈ front ++ List.replicate (copies + 1) stop, token.isStop = true :=
      ⟨stop, by simp, hstop⟩
    refine ⟨front, copies + 1, stop, rfl, hfront, hstop, ?_, ?_⟩
    · have hisHalted : e.state.isHalted = true := by simp [State.isHalted, hhalted]
      exact ⟨fun _ => hmem, fun _ => hisHalted⟩
    · intro _
      exact nextToken_of_halted hhalted

/-- In any sequence of calls on a new engine with plain rules the answers to the requests are tokens
that are no stops, followed by copies of a single stop. The engine is halted exactly if a stop is
among them, and then a further request returns this stop and leaves the whole engine as it is. -/
theorem halting_is_final {g : Grammar ε} (hg : g.Plain) {text : Text} {start : Engine ε}
    (hstart : Engine.start g text = .ok start) (markers : List Text) (cs : List (Call ε)) :
    ∃ answers e, calls cs (start.addMarkers markers) = (answers, e) ∧
      ∃ front copies stop, answers = front ++ List.replicate copies stop ∧
        (∀ token ∈ front, token.isStop = false) ∧ stop.isStop = true ∧
        (e.state.isHalted = true ↔ ∃ token ∈ answers, token.isStop = true) ∧
        ((∃ token ∈ answers, token.isStop = true) → e.nextToken = (.ok stop, e)) := by
  obtain ⟨hcompile, hstate⟩ := start_cases hstart
  have hlive : (start.addMarkers markers).state.stop = none := by
    simp [addMarkers, State.addMarkers, hstate]
  have hfresh : Latched [] (start.addMarkers markers) := .live hlive (by simp)
  have hplain : Plain (start.addMarkers markers).modes := hg.compile hcompile
  have hlatched := hfresh.calls hplain cs
  rw [List.nil_append] at hlatched
  exact ⟨_, _, rfl, hlatched.summary⟩

/-- A stop of a type that is not built in. -/
def pause : Token := ⟨some (.child .stop "Stop.Paused"), []⟩

/-- The owner queues a stop with another token behind it, and goes on after it. -/
def callsAroundPause : List (Call Unit) :=
  [.next, .operate (.push pause), .operate (.push {}), .next, .operate (.enter "block"),
    .operate (.consume 1), .next]

/-- A stop that the owner queues halts the engine in the middle of its text, and the operations that
follow do not change that. -/
theorem halting_is_final_at_pause : ∃ start answers e,
    Engine.start (Language.C.grammar : Grammar Unit) "x é".toList = .ok start ∧
    calls callsAroundPause (start.addMarkers []) = (answers, e) ∧
    answers = [⟨some .codeIdentifier, ['x']⟩, pause, pause] ∧
    e.state.isHalted = true ∧ e.nextToken = (.ok pause, e) := by
  obtain ⟨start, hstart, heq⟩ : ∃ start,
      Engine.start (Language.C.grammar : Grammar Unit) "x é".toList = .ok start ∧
      (calls callsAroundPause (start.addMarkers [])).1
        = [⟨some .codeIdentifier, ['x']⟩, pause, pause] := by
    decide +kernel
  obtain ⟨answers, e, hcalls, front, copies, stop, hanswers, hfront, -, hhalted, hnext⟩ :=
    halting_is_final Language.C.plain_grammar hstart [] callsAroundPause
  rw [hcalls] at heq
  have hmem : ∃ token ∈ answers, token.isStop = true := by
    rw [show answers = _ from heq]
    decide
  refine ⟨start, answers, e, hstart, hcalls, heq, hhalted.2 hmem, ?_⟩
  have hlast : answers.getLast? = some pause := by
    rw [show answers = _ from heq]
    rfl
  cases copies with
  | zero =>
    obtain ⟨token, htoken, hstop⟩ := hmem
    rw [hanswers, List.replicate_zero, List.append_nil] at htoken
    rw [hfront token htoken] at hstop
    cases hstop
  | succ n =>
    rw [hanswers, List.replicate_succ', ← List.append_assoc, List.getLast?_concat] at hlast
    rw [← Option.some.inj hlast]
    exact hnext hmem

/-- A request that is abandoned has no answer, so nothing needs to follow. A rule that requests a
token itself halts the engine, and then the request that has tried the rule returns a token that is
no stop. -/
theorem requests_of_rules_halt : ∃ skipping asked : Engine Unit,
    Engine.start (.ofProcedure (.consume 1 fun _ => .done true)) "é".toList = .ok skipping ∧
    (calls [.next, .next] skipping).1 = [] ∧
    (calls [.next, .next] skipping).2.state.isHalted = false ∧
    Engine.start (.ofProcedure (asking 1)) "a".toList = .ok asked ∧
    (calls [.next] asked).1 = [⟨some .code, ['s']⟩] ∧
    (calls [.next] asked).2.state.isHalted = true := by
  obtain ⟨skipping, hskipping, hnone, hlive⟩ : ∃ e : Engine Unit,
      Engine.start (.ofProcedure (.consume 1 fun _ => .done true)) "é".toList = .ok e ∧
      (calls [.next, .next] e).1 = [] ∧ (calls [.next, .next] e).2.state.isHalted = false := by
    decide +kernel
  obtain ⟨asked, hasked, htoken, hhalted⟩ : ∃ e : Engine Unit,
      Engine.start (.ofProcedure (asking 1)) "a".toList = .ok e ∧
      (calls [.next] e).1 = [⟨some .code, ['s']⟩] ∧
      (calls [.next] e).2.state.isHalted = true := by
    decide +kernel
  exact ⟨skipping, asked, hskipping, hnone, hlive, hasked, htoken, hhalted⟩

end Engine

end ModalLexer
