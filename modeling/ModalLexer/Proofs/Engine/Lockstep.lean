import ModalLexer.Proofs.Engine.Lexing

/-! # Scans in lockstep

Two scans of one text may be in different modes. As long as they take steps with the same tokens, no
request can tell them apart.
-/

namespace ModalLexer

variable {ε : Type}

/-- Related situations have the same text, and steps with the same tokens lead from them to related
situations. -/
def Grammar.Aligns (g : Grammar ε) (R : Situation → Situation → Prop) : Prop :=
  ∀ c c', R c c' → c.text = c'.text ∧ (c.text ≠ [] →
    ∃ st st' d d', g.StepsTo c st d ∧ g.StepsTo c' st' d' ∧ st.tokens = st'.tokens ∧ R d d')

/-- The engines have the same text left, the same tokens queued and the same stop. -/
structure Engine.Alike (e e' : Engine ε) : Prop where
  text : e.state.text = e'.state.text
  queue : e.state.queue.toList = e'.state.queue.toList
  stop : e.state.stop = e'.state.stop

/-- The runs return the same tokens and the same stop, and behind each request the engines are
alike. -/
structure Run.Alike (r r' : Run ε) : Prop where
  answers : List.Forall₂ (fun answer answer' => answer.1 = answer'.1 ∧ answer.2.Alike answer'.2)
    r.answers r'.answers
  stop : r.stop = r'.stop
  last : r.last.Alike r'.last

theorem Run.Alike.tokens {r r' : Run ε} (h : r.Alike r') :
    r.answers.map Prod.fst = r'.answers.map Prod.fst := by
  have hsame : List.Forall₂ (· = ·) (r.answers.map Prod.fst) (r'.answers.map Prod.fst) := by
    rw [List.forall₂_map_left_iff, List.forall₂_map_right_iff]
    exact h.answers.imp fun _ _ hanswer => hanswer.1
  rwa [List.forall₂_eq_eq_eq] at hsame

namespace Engine

variable {g : Grammar ε} {R : Situation → Situation → Prop} {c c' : Situation}
  {queued : List Token} {e e' : Engine ε} {token : Token}

theorem At.alike (hR : g.Aligns R) (hc : R c c') (h : At g c queued e) (h' : At g c' queued e') :
    e.Alike e' := by
  have htext : e.state.situation.text = e'.state.situation.text := by
    rw [h.situation, h'.situation]
    exact (hR c c' hc).1
  exact ⟨htext, h.queue.trans h'.queue.symm, h.live.trans h'.live.symm⟩

/-- Scans in related situations run alike up to the end of the text. -/
theorem exists_run_alike (hR : g.Aligns R) {limit : Nat} (hc : R c c') (h : At g c queued e)
    (h' : At g c' queued e') (hqueued : ∀ token ∈ queued, token.isStop = false)
    (hlimit : queued.length + c.text.byteSize < limit) :
    ∃ r r', e.run limit = .ok r ∧ e'.run limit = .ok r' ∧ r.Alike r' ∧ r.stop = endOfText := by
  induction limit generalizing c c' queued e e' with
  | zero => omega
  | succ limit ih =>
    -- What the scans hand out in the same way is followed by runs that are alike.
    have hgo : ∀ {token d d' more f f'}, token.isStop = false → e.nextToken = (.ok token, f) →
        e'.nextToken = (.ok token, f') → R d d' → At g d more f → At g d' more f' →
        (∀ token ∈ more, token.isStop = false) → more.length + d.text.byteSize < limit →
        ∃ r r', e.run (limit + 1) = .ok r ∧ e'.run (limit + 1) = .ok r' ∧ r.Alike r' ∧
          r.stop = endOfText := by
      intro token d d' more f f' htoken hnext hnext' hd hat hat' hmore hlimit
      obtain ⟨r, r', hr, hr', ⟨hanswers, hstop, hlast⟩, hend⟩ := ih hd hat hat' hmore hlimit
      exact ⟨_, _, run_succ hnext htoken hr, run_succ hnext' htoken hr',
        ⟨.cons ⟨rfl, hat.alike hR hd hat'⟩ hanswers, hstop, hlast⟩, hend⟩
    cases queued with
    | cons token queued =>
      have htoken := hqueued token List.mem_cons_self
      obtain ⟨f, hnext, hat⟩ := h.next_queued htoken
      obtain ⟨f', hnext', hat'⟩ := h'.next_queued htoken
      refine hgo htoken hnext hnext' hc hat hat'
        (fun t ht => hqueued t (List.mem_cons_of_mem _ ht)) ?_
      rw [List.length_cons] at hlimit
      omega
    | nil =>
      obtain ⟨htext, hstep⟩ := hR c c' hc
      by_cases hnil : c.text = []
      · obtain ⟨f, hnext, hstop, hsituation, hq⟩ := h.next_end hnil
        obtain ⟨f', hnext', hstop', hsituation', hq'⟩ := h'.next_end (htext.symm.trans hnil)
        have hleft : f.state.situation.text = f'.state.situation.text := by
          rw [hsituation, hsituation', htext]
        exact ⟨_, _, run_endOfText hnext, run_endOfText hnext',
          ⟨.nil, rfl, hleft, hq.trans hq'.symm, hstop.trans hstop'.symm⟩, rfl⟩
      · obtain ⟨st, st', d, d', hst, hst', htokens, hd⟩ := hstep hnil
        obtain ⟨token, others, hcut⟩ := List.exists_cons_of_ne_nil hst.1.some_token
        obtain ⟨f, hnext, hat⟩ := h.next_step hst hcut
        obtain ⟨f', hnext', hat'⟩ := h'.next_step hst' (htokens.symm.trans hcut)
        have hall : ∀ t ∈ token :: others, t.isStop = false := hcut ▸ hst.1.not_stop
        refine hgo (hall token List.mem_cons_self) hnext hnext' hd hat hat'
          (fun t ht => hall t (List.mem_cons_of_mem _ ht)) ?_
        have hshort := hst.length_add_byteSize_le
        rw [hcut, List.length_cons] at hshort
        rw [List.length_nil] at hlimit
        omega

end Engine

end ModalLexer
