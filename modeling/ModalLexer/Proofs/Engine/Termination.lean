import ModalLexer.Proofs.Engine.Lexing
import ModalLexer.Proofs.Engine.Safety
import ModalLexer.Proofs.Rule.Flat

/-! # Scans with flat rules end

A pass over flat rules takes text and queues tokens, or it queues a stop, or it changes nothing but
the score and the mode. The last kind is idle, and only so many idle passes may come in a row, so a
scan ends. Its stop tells why: what the pass that queued it found in the state in which it began is
one of four reasons.
-/

namespace ModalLexer

variable {ε : Type}

namespace Engine

/-- A number of passes in a row, from `s` on, that neither take text nor queue a token. -/
inductive IdlePasses (modes : List (CompiledMode ε)) (s : State ε) : Nat → State ε → Prop
  | zero : IdlePasses modes s 0 s
  | succ {n : Nat} {t t' : State ε} {e? : Option RuleError} (h : IdlePasses modes s n t)
    (hpass : pass modes t = (.ok e?, t')) (htext : t'.text = t.text)
    (hq : t'.queue.toList = []) : IdlePasses modes s (n + 1) t'

/-- A rule of the current mode fails, and the stop reports it. The rules in front of it pass over
the text, its pattern matches, and one of the steps of its action is refused. -/
def RuleFails (modes : List (CompiledMode ε)) (s : State ε) (stop : Token) : Prop :=
  ∃ mode before p action after captures s' e, modes[s.mode]? = some mode ∧
    mode.rules = before ++ .pattern p action :: after ∧ (∀ r ∈ before, r.PassesOver s.text) ∧
    p.search s.text = some captures ∧
    action.Fails captures { s with rule := before.length } s' e ∧
    s'.rule = before.length ∧ stop = s'.report e mode.name

/-- There are too many idle passes, and the stop reports it. -/
def Stalls (modes : List (CompiledMode ε)) (s : State ε) (stop : Token) : Prop :=
  ∃ t, IdlePasses modes s maxIdlePasses t ∧
    stop = t.report (.noProgress maxIdlePasses) t.modeName

inductive StopReason where
  | endOfText
  | marker
  | unmatched
  | error

/-- The stop has been queued for the reason given, by a pass that began in `s` or by the last one of
several, and `left` is the text behind it. -/
def StopReason.Holds (modes : List (CompiledMode ε)) (markers : List Text) (s : State ε)
    (stop : Token) (left : Text) : StopReason → Prop
  | .endOfText => stop = ⟨some .stopEndOfString, []⟩ ∧ s.text = [] ∧ left = []
  | .marker => ∃ m, stop = ⟨some .stopLexer, m⟩ ∧ FirstMarker markers s.text m ∧
      s.text = m ++ left
  | .unmatched => stop = ⟨some .stopLexer, []⟩ ∧ s.text ≠ [] ∧ left = s.text ∧
      (∀ m ∈ markers, m ≠ [] → ¬ m <+: s.text) ∧
      ∃ mode, modes[s.mode]? = some mode ∧ ∀ r ∈ mode.rules, r.PassesOver s.text
  | .error => stop.kind = some .stopError ∧ (RuleFails modes s stop ∨ Stalls modes s stop)

variable {modes : List (CompiledMode ε)} {markers : List Text} {s s' t u : State ε}
  {answer : Except Fault (Option RuleError)} {index number : Nat} {rule : CompiledRule ε}
  {rules : List (CompiledRule ε)} {stop : Token} {left : Text} {why why' : StopReason}

/-- The last idle pass that may be made gives a reason to stop. -/
theorem IdlePasses.error_holds {n : Nat} (h : IdlePasses modes s n t) (hn : n = maxIdlePasses) :
    StopReason.error.Holds modes markers s (t.report (.noProgress n) t.modeName) left := by
  subst hn
  exact ⟨rfl, .inr ⟨t, h, rfl⟩⟩

/-- The state of a scan with the given modes and markers, in a mode that exists. -/
structure Ready (modes : List (CompiledMode ε)) (markers : List Text) (s : State ε) : Prop where
  inModes : s.InModes
  names : s.modeNames.length = modes.length
  markers : s.markers = markers.filter (!·.isEmpty)

/-- Passes over the text have led to the state and queued tokens and then stops. -/
structure Yields (text : Text) (s : State ε) (tokens stops : List Token) : Prop where
  queue : s.queue.toList = tokens ++ stops
  sound : ∀ token ∈ tokens, token.text ≠ [] ∧ token.isStop = false
  size : (Token.join tokens).byteSize + s.text.byteSize ≤ text.byteSize

/-- There is no stop, or one for the given reason. -/
def Justified (why : Token → Prop) (stops : List Token) : Prop :=
  stops = [] ∨ ∃ stop, stops = [stop] ∧ stop.isStop = true ∧ why stop

theorem Justified.imp {why why' : Token → Prop} {stops : List Token} (h : Justified why stops)
    (himp : ∀ stop, why stop → why' stop) : Justified why' stops := by
  rcases h with rfl | ⟨stop, rfl, hstop, hwhy⟩
  · exact .inl rfl
  · exact .inr ⟨stop, rfl, hstop, himp stop hwhy⟩

theorem Justified.length_le {why : Token → Prop} {stops : List Token} (h : Justified why stops) :
    stops.length ≤ 1 := by
  rcases h with rfl | ⟨stop, rfl, -⟩ <;> simp

theorem Ready.of_frame (hs : Ready modes markers s) (hframe : s'.frame = s.frame)
    (hmodes : s'.InModes) : Ready modes markers s' := by
  have hnames : s'.modeNames = s.modeNames := congrArg State.Frame.modeNames hframe
  have hmarkers : s'.markers = s.markers := congrArg State.Frame.markers hframe
  exact ⟨hmodes, by rw [hnames, hs.names], by rw [hmarkers, hs.markers]⟩

theorem Ready.exists_mode (hs : Ready modes markers s) : ∃ mode, modes[s.mode]? = some mode :=
  ⟨_, List.getElem?_eq_getElem (hs.names ▸ hs.inModes.mode)⟩

/-- Flat rules that decline pass over the text and change nothing. -/
theorem Declined.flat (h : Declined index rules s t)
    (hrules : ∀ r ∈ rules, r.Declares Action.Flat) :
    (∃ n, t = { s with rule := n }) ∧ ∀ r ∈ rules, r.PassesOver s.text := by
  induction h with
  | nil index s => exact ⟨⟨s.rule, rfl⟩, by simp⟩
  | @cons index rule rules s s' t hexec _ ih =>
    obtain ⟨p, action, rfl, haction⟩ := (hrules _ List.mem_cons_self).exists_eq
    obtain ⟨rfl, hover⟩ := CompiledRule.passesOver_of_declined haction hexec
    obtain ⟨⟨n, rfl⟩, hmore⟩ := ih fun r hr => hrules r (List.mem_cons_of_mem _ hr)
    refine ⟨⟨n, rfl⟩, ?_⟩
    intro r hr
    rcases List.mem_cons.1 hr with rfl | hmem
    · exact hover
    · exact hmore r hmem

theorem yields_push (hq : s.queue.toList = [])
    (hleft : Text.byteSize s.text ≤ Text.byteSize left) : Yields left (s.push stop) [] [stop] :=
  ⟨by simp [State.push, hq], by simp, by simpa [State.push] using hleft⟩

theorem yields_of_cuts {tokens : List Token} (h : s.Cuts s' tokens) (hq : s.queue.toList = []) :
    Yields s.text s' tokens [] := by
  exact ⟨by simp [h.queue, hq], h.sound, Nat.le_of_eq (by rw [h.text, Text.byteSize_append])⟩

theorem not_prefix_of_markerAt? (hs : Ready modes markers s) (htext : s.text ≠ [])
    (h : markerAt? s = none) : ∀ m ∈ markers, m ≠ [] → ¬ m <+: s.text := by
  intro m hm hne hprefix
  have hnil : ¬ s.text.isEmpty = true := by simpa using htext
  rw [markerAt?, if_neg hnil, hs.markers, List.find?_eq_none] at h
  have hmem : m ∈ markers.filter (!·.isEmpty) := List.mem_filter.2 ⟨hm, by simpa using hne⟩
  exact h m hmem (List.isPrefixOf_iff_prefix.2 hprefix)

theorem Passes.snoc {idle n : Nat} {e? : Option RuleError} (h : Passes modes idle s n t)
    (hpass : Engine.pass modes t = (.ok e?, u)) (hq : u.queue.isEmpty = true)
    (hidle : idleAfter n t u < maxIdlePasses) : Passes modes idle s (idleAfter n t u) u := by
  induction h with
  | refl => exact .pass hpass hq hidle (.refl _ _)
  | pass hfirst hq' hidle' _ ih => exact .pass hfirst hq' hidle' (ih hpass hidle)

section FlatModes

variable (hmodes : ∀ mode ∈ modes, ∀ r ∈ mode.rules, r.Declares Action.Flat)
include hmodes

theorem plain_of_flat : Plain modes :=
  plain_of_declares (fun _ h => h.tidy.declarative.plain) hmodes

/-- What a flat rule does on its turn. -/
theorem Turn.flat {mode : CompiledMode ε} {result : Except Interruption Bool}
    (hs : Ready modes markers s) (hmode : modes[s.mode]? = some mode)
    (hturn : Turn 0 mode.rules s rule number t)
    (hexec : rule.exec { t with rule := number } = (result, s')) :
    (∀ f, result ≠ .error (.fault f)) ∧ Ready modes markers s' ∧ (∃ tokens, s.Cuts s' tokens) ∧
      ∀ e, result = .error (.error e) → RuleFails modes s (s'.report e mode.name) := by
  obtain ⟨before, after, hrules, hnumber, hdeclined⟩ := hturn
  have hflat := hmodes mode (List.mem_of_getElem? hmode)
  rw [hrules] at hflat
  obtain ⟨⟨n, rfl⟩, hover⟩ := hdeclined.flat fun r hr => hflat r (by simp [hr])
  obtain ⟨p, action, rfl, haction⟩ := (hflat rule (by simp)).exists_eq
  rw [Nat.zero_add] at hnumber
  subst hnumber
  have hexec : (CompiledRule.pattern p action).exec { s with rule := before.length }
      = (result, s') := hexec
  have hplain := haction.tidy.declarative.plain
  have hframe := CompiledRule.exec_frame (r := .pattern p action) hplain
    { s with rule := before.length }
  rw [hexec] at hframe
  obtain ⟨hfault, -, hcuts⟩ := CompiledRule.exec_cuts haction.tidy hexec
  cases hsearch : p.search s.text with
  | none =>
    simp only [CompiledRule.exec, hsearch] at hexec
    cases hexec
    exact ⟨by simp, hs.of_frame hframe ⟨hs.inModes.mode, hs.inModes.stack⟩,
      ⟨[], State.cuts_of_eq rfl rfl⟩, by simp⟩
  | some captures =>
    simp only [CompiledRule.exec, hsearch] at hexec
    have hin := Action.exec_kept State.kept_inModes captures hplain.allows
      (s := { s with rule := before.length }) ⟨hs.inModes.mode, hs.inModes.stack⟩
    have hrule := Action.exec_kept (State.kept_rule before.length) captures hplain.allows
      (s := { s with rule := before.length }) rfl
    rw [hexec] at hin hrule
    refine ⟨hfault, hs.of_frame hframe hin, ?_, ?_⟩
    · rcases hcuts with ⟨-, rfl⟩ | ⟨_, -, tokens, ⟨htext, hqueue, hsound⟩, -⟩
      · exact ⟨[], State.cuts_of_eq rfl rfl⟩
      · exact ⟨tokens, htext, hqueue, hsound⟩
    · rintro e rfl
      exact ⟨mode, before, p, action, after, captures, s', e, hmode, hrules, hover, hsearch,
        haction.tidy.declarative.fails hexec, hrule, rfl⟩

/-- A pass over flat rules is not abandoned. It takes text and queues it in tokens, and then a stop
if it has a reason to. If it queues nothing it takes nothing. -/
theorem pass_yields (hs : Ready modes markers s) (hq : s.queue.toList = [])
    (h : pass modes s = (answer, s')) :
    (∃ e?, answer = .ok e?) ∧ Ready modes markers s' ∧
      ∃ tokens stops, Yields s.text s' tokens stops ∧
      Justified (fun stop => ∃ why : StopReason, why.Holds modes markers s stop s'.text) stops ∧
      (tokens = [] → stops = [] → s'.text = s.text) := by
  have hframe := frame_of_pass (plain_of_flat hmodes) h
  rcases pass_cases h with ⟨htext, rfl, rfl⟩ | ⟨marker, hmarker, rfl, rfl⟩ |
    ⟨htext, hmarker, hrules⟩
  · exact ⟨⟨_, rfl⟩, hs.of_frame hframe ⟨hs.inModes.mode, hs.inModes.stack⟩, [], _,
      yields_push hq (Nat.le_refl _), .inr ⟨_, rfl, by decide, .endOfText, rfl, htext, htext⟩,
      by simp⟩
  · have hfirst := (markerAt?_eq_some_iff hs.markers).1 hmarker
    obtain ⟨left, hleft⟩ := hfirst.2.1
    have hcut : s.text.drop marker.length = left := by rw [← hleft, List.drop_left]
    refine ⟨⟨_, rfl⟩, hs.of_frame hframe ⟨hs.inModes.mode, hs.inModes.stack⟩, [], _,
      yields_push hq ?_, .inr ⟨_, rfl, isStop_stopLexer marker, .marker, marker, rfl, hfirst, ?_⟩,
      by simp⟩
    · rw [hcut, ← hleft, Text.byteSize_append]
      exact Nat.le_add_left _ _
    · rw [show (cut s marker).text = s.text.drop marker.length from rfl, hcut, hleft]
  rcases hrules with ⟨hnone, -⟩ | ⟨mode, hmode, htried⟩
  · obtain ⟨mode, hmode⟩ := hs.exists_mode
    rw [hnone] at hmode
    cases hmode
  cases htried with
  | abandoned hturn hexec =>
    exact absurd rfl ((hturn.flat hmodes hs hmode hexec).1 _)
  | fired hturn hexec =>
    obtain ⟨-, hready, ⟨tokens, hcuts⟩, -⟩ := hturn.flat hmodes hs hmode hexec
    refine ⟨⟨_, rfl⟩, hready, tokens, [], yields_of_cuts hcuts hq, .inl rfl, ?_⟩
    rintro rfl -
    exact hcuts.text.symm
  | @failed _ _ _ s₁ e hturn hexec =>
    obtain ⟨-, hready, ⟨tokens, hcuts⟩, hfails⟩ := hturn.flat hmodes hs hmode hexec
    obtain ⟨hqueue, hsound, hsize⟩ := yields_of_cuts hcuts hq
    exact ⟨⟨_, rfl⟩, hready.of_frame rfl ⟨hready.inModes.mode, hready.inModes.stack⟩, tokens,
      [s₁.report e mode.name], ⟨by simp [State.fail_eq_push, State.push, hqueue], hsound, hsize⟩,
      .inr ⟨_, rfl, s₁.isStop_report _ _, .error, rfl, .inl (hfails e rfl)⟩, by simp⟩
  | unmatched hdeclined =>
    obtain ⟨⟨n, rfl⟩, hover⟩ := hdeclined.flat (hmodes mode (List.mem_of_getElem? hmode))
    exact ⟨⟨_, rfl⟩, hs.of_frame hframe ⟨hs.inModes.mode, hs.inModes.stack⟩, [], _,
      yields_push hq (Nat.le_refl _), .inr ⟨_, rfl, isStop_stopLexer [], .unmatched, rfl, htext,
        rfl, not_prefix_of_markerAt? hs htext hmarker, mode, hmode, hover⟩, by simp⟩

/-- The passes of a request that finds the queue empty end with something queued, and their number
is paid for by the bytes taken and the stop. -/
theorem fillAfter_yields {root v : State ε} (idle : Nat) (hs : Ready modes markers s)
    (hq : s.queue.toList = []) (hidle : idle < maxIdlePasses)
    (hpasses : Passes modes 0 root idle s) (hv : ∃ n, Passes modes 0 root n v)
    (hall : IdlePasses modes v idle s) :
    ∃ e? s' tokens stops, fillAfter modes idle s = (.ok e?, s') ∧ Ready modes markers s' ∧
      Yields s.text s' tokens stops ∧ tokens ++ stops ≠ [] ∧
      Justified (fun stop => ∃ u n, Passes modes 0 root n u ∧
        ∃ why : StopReason, why.Holds modes markers u stop s'.text) stops ∧
      (countedFill modes idle s).1 + idle + maxIdlePasses * s'.text.byteSize
        ≤ maxIdlePasses * (s.text.byteSize + stops.length) := by
  induction idle, s using passes_induction modes with
  | step idle s ih =>
    rw [fillAfter_eq, countedFill_eq]
    cases hpass : pass modes s with
    | mk answer s' =>
      obtain ⟨⟨e?, rfl⟩, hready, tokens, stops, hyields, hstops, hidlePass⟩ :=
        pass_yields hmodes hs hq hpass
      by_cases hnone : tokens ++ stops = []
      · -- The pass is idle, and either it was the last one or more passes follow.
        obtain ⟨rfl, rfl⟩ := List.append_eq_nil_iff.1 hnone
        have htext := hidlePass rfl rfl
        have hq' : s'.queue.toList = [] := hyields.queue
        have hempty : s'.queue.isEmpty = true := Queue.isEmpty_iff.2 hq'
        have hnot : ¬ s'.queue.isEmpty = false := by simp [hempty]
        have hnext : idleAfter idle s s' = idle + 1 := by simp [idleAfter, htext]
        have hall' : IdlePasses modes v (idle + 1) s' := hall.succ hpass htext hq'
        simp only [if_neg hnot, hnext]
        by_cases hmore : idle + 1 < maxIdlePasses
        · have hpasses' := hpasses.snoc hpass hempty (by rwa [hnext])
          have hlater := ih e? s' hpass hempty (by rwa [hnext]) hready hq' (by rwa [hnext]) hpasses'
            (by rwa [hnext])
          rw [hnext, htext] at hlater
          obtain ⟨e?, t, tokens, stops, hfill, hready, hyields, hne, hstops, hcount⟩ := hlater
          refine ⟨e?, t, tokens, stops, by rw [if_pos hmore, hfill], hready, hyields, hne, hstops,
            ?_⟩
          rw [if_pos hmore]
          omega
        · have hlast : idle + 1 = maxIdlePasses := by omega
          refine ⟨some (.noProgress (idle + 1)), s'.fail (.noProgress (idle + 1)) s'.modeName, [],
            [s'.report (.noProgress (idle + 1)) s'.modeName], by rw [if_neg hmore],
            hready.of_frame rfl ⟨hready.inModes.mode, hready.inModes.stack⟩,
            yields_push hq' (Nat.le_of_eq (by rw [htext])), by simp, ?_, ?_⟩
          · obtain ⟨n, hv⟩ := hv
            exact .inr ⟨_, rfl, s'.isStop_report _ _, v, n, hv, .error, hall'.error_holds hlast⟩
          · rw [if_neg hmore, State.text_fail, htext, List.length_singleton]
            simp only [maxIdlePasses] at hlast ⊢
            omega
      · have hfull : s'.queue.isEmpty = false := by
          rw [← Bool.not_eq_true, Queue.isEmpty_iff, hyields.queue]
          exact hnone
        simp only [hfull, if_true]
        refine ⟨e?, s', tokens, stops, rfl, hready, hyields, hnone, ?_, ?_⟩
        · rcases hstops with rfl | ⟨stop, rfl, hstop, why, hwhy⟩
          · exact .inl rfl
          · exact .inr ⟨stop, rfl, hstop, s, idle, hpasses, why, hwhy⟩
        · have hjoin := Token.length_le_byteSize_join fun token ht => (hyields.sound token ht).1
          have hsize := hyields.size
          have hsome := List.length_pos_iff.2 hnone
          rw [List.length_append] at hsome
          simp only [maxIdlePasses] at hidle ⊢
          omega

end FlatModes

/-- A live scan with tokens queued, and stops behind them. -/
structure Flows (modes : List (CompiledMode ε)) (markers : List Text) (e : Engine ε)
    (tokens stops : List Token) : Prop where
  modes_eq : e.modes = modes
  ready : Ready modes markers e.state
  live : e.state.stop = none
  queue : e.state.queue.toList = tokens ++ stops
  sound : ∀ token ∈ tokens, token.text ≠ [] ∧ token.isStop = false

/-- A pass of the next request finds a reason for the stop. -/
def Explains (modes : List (CompiledMode ε)) (markers : List Text) (e : Engine ε) (stop : Token)
    (left : Text) : Prop :=
  ∃ u, e.PassBegins u ∧ ∃ why : StopReason, why.Holds modes markers u stop left

variable {e : Engine ε} {token : Token} {tokens stops : List Token}

theorem Flows.queued_ne (h : Flows modes markers e tokens stops) (hne : tokens ++ stops ≠ []) :
    fill e.modes e.state = (.ok none, e.state) ∧ e.requestPasses = 0 := by
  have hfull : e.state.queue.isEmpty = false := by
    rw [← Bool.not_eq_true, Queue.isEmpty_iff, h.queue]
    exact hne
  exact ⟨by simp [fill, hfull], by simp [requestPasses, hfull]⟩

theorem Flows.next (h : Flows modes markers e (token :: tokens) stops) :
    ∃ e', e.nextToken = (.ok token, e') ∧ Flows modes markers e' tokens stops ∧
      e'.state.text = e.state.text := by
  obtain ⟨hfill, -⟩ := h.queued_ne (by simp)
  obtain ⟨queue, hqueue, hnext⟩ := nextToken_eq_of_fill h.live hfill h.queue
  have htoken := (h.sound token List.mem_cons_self).2
  refine ⟨_, hnext, ⟨h.modes_eq, ?_, by simp [htoken, h.live], hqueue, ?_⟩, rfl⟩
  · exact ⟨⟨h.ready.inModes.mode, h.ready.inModes.stack⟩, h.ready.names, h.ready.markers⟩
  · exact fun t ht => h.sound t (List.mem_cons_of_mem _ ht)

theorem Flows.last (h : Flows modes markers e [] [stop]) (hstop : stop.isStop = true) :
    ∃ e', e.nextToken = (.ok stop, e') ∧ e'.state.stop = some stop ∧
      e'.state.text = e.state.text := by
  obtain ⟨hfill, -⟩ := h.queued_ne (by simp)
  obtain ⟨queue, -, hnext⟩ := nextToken_eq_of_fill h.live hfill h.queue
  exact ⟨_, hnext, by simp [hstop], rfl⟩

/-- A request that finds the queue empty goes on as if its passes had been made before. -/
theorem Flows.refill (hmodes : ∀ mode ∈ modes, ∀ r ∈ mode.rules, r.Declares Action.Flat)
    (h : Flows modes markers e [] []) :
    ∃ e' tokens stops, e.nextToken = e'.nextToken ∧ Flows modes markers e' tokens stops ∧
      tokens ++ stops ≠ [] ∧
      tokens.length + e'.state.text.byteSize ≤ e.state.text.byteSize ∧
      Justified (fun stop => Explains modes markers e stop e'.state.text) stops ∧
      e.requestPasses + maxIdlePasses * e'.state.text.byteSize
        ≤ maxIdlePasses * (e.state.text.byteSize + stops.length) := by
  have hq : e.state.queue.toList = [] := h.queue
  have hempty := Queue.isEmpty_iff.2 hq
  obtain ⟨e?, s', tokens, stops, hfill, hready, hyields, hne, hstops, hcount⟩ :=
    fillAfter_yields hmodes 0 h.ready hq (by decide) (.refl 0 e.state) ⟨0, .refl 0 e.state⟩ .zero
  have hlive : s'.stop = none := by
    have hframe : (fillAfter modes 0 e.state).2.frame = e.state.frame :=
      fillAfter_frame (plain_of_flat hmodes) 0 e.state
    rw [hfill] at hframe
    exact (congrArg State.Frame.stop hframe).trans h.live
  have hflows : Flows modes markers { e with state := s' } tokens stops :=
    ⟨h.modes_eq, hready, hlive, hyields.queue, hyields.sound⟩
  have hfilled : fill e.modes e.state = (.ok e?, s') := by
    rw [fill, if_pos hempty, h.modes_eq, hfill]
  obtain ⟨hfilled', -⟩ := hflows.queued_ne hne
  refine ⟨{ e with state := s' }, tokens, stops, ?_, hflows, hne, ?_, ?_, ?_⟩
  · simp only [nextToken, h.live, hlive, hfilled] at hfilled' ⊢
    rw [hfilled']
  · have hjoin := Token.length_le_byteSize_join fun token ht => (hyields.sound token ht).1
    have hsize := hyields.size
    simp only
    omega
  · rcases hstops with rfl | ⟨stop, rfl, hstop, u, n, hpasses, hwhy⟩
    · exact .inl rfl
    · refine .inr ⟨stop, rfl, hstop, u, ⟨hq, n, ?_⟩, hwhy⟩
      rw [h.modes_eq]
      exact hpasses
  · have hpasses : e.requestPasses = (countedFill modes 0 e.state).1 := by
      simp [requestPasses, State.isHalted, h.live, hempty, h.modes_eq]
    rw [hpasses]
    exact hcount

/-- A request goes on as if there had been something queued. Its passes are paid for by the bytes
taken and by the stop, unless that was queued before. -/
theorem Flows.filled (hmodes : ∀ mode ∈ modes, ∀ r ∈ mode.rules, r.Declares Action.Flat)
    (known : Token → Text → Prop) (h : Flows modes markers e tokens stops)
    (hstops : Justified (fun stop => known stop e.state.text) stops) :
    ∃ e' tokens' stops', e.nextToken = e'.nextToken ∧ Flows modes markers e' tokens' stops' ∧
      tokens' ++ stops' ≠ [] ∧
      tokens'.length + e'.state.text.byteSize ≤ tokens.length + e.state.text.byteSize ∧
      Justified (fun stop => known stop e'.state.text ∨
        Explains modes markers e stop e'.state.text) stops' ∧
      e.requestPasses + maxIdlePasses * (e'.state.text.byteSize + stops.length)
        ≤ maxIdlePasses * (e.state.text.byteSize + stops'.length) := by
  by_cases hnone : tokens ++ stops = []
  · obtain ⟨rfl, rfl⟩ := List.append_eq_nil_iff.1 hnone
    obtain ⟨e', tokens, stops, hsame, hflows, hne, hsize, hjust, hcount⟩ := h.refill hmodes
    exact ⟨e', tokens, stops, hsame, hflows, hne, by simpa using hsize, hjust.imp fun _ => .inr,
      by simpa using hcount⟩
  · refine ⟨e, tokens, stops, rfl, h, hnone, Nat.le_refl _, hstops.imp fun _ => .inl, ?_⟩
    exact Nat.le_of_eq (by rw [(h.queued_ne hnone).2, Nat.zero_add])

end Engine

end ModalLexer
