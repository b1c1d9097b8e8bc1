import Midn.Lib.Mealy

/-!
# Machines in dialogue with a peer

A peer has a state of its own, reads each output of the machine and either answers with the next
message or falls silent. What the peer does not control of an input is a choice of the
environment, one for each step. Others may use the machine too, between the messages of the peer.
-/

namespace Mealy

variable {σ τ ι ο μ ρ : Type} (step : σ → ι → σ × ο) (input : ρ → μ → ι)
  (react : τ → ο → Option μ × τ)

/-- The transitions of a machine in dialogue with a peer that has just sent a message, and the
state the peer ends in. The dialogue ends when the peer falls silent or the choices run out. -/
def dialogue : List ρ → σ → τ → μ → List (Transition σ ι ο) × τ
  | [], _, u, _ => ([], u)
  | choice :: choices, s, u, message =>
      let t := transition step s (input choice message)
      match react u t.output with
      | (none, u) => ([t], u)
      | (some reply, u) =>
          let rest := dialogue choices t.post u reply
          (t :: rest.1, rest.2)

variable {step input react} {choice : ρ} {choices : List ρ} {s : σ} {u u' : τ} {message : μ}

/-- A message that is answered is one transition, and the dialogue goes on with the answer. -/
theorem dialogue_of_reply {reply : μ}
    (hreact : react u (step s (input choice message)).2 = (some reply, u')) :
    dialogue step input react (choice :: choices) s u message =
      (transition step s (input choice message) ::
          (dialogue step input react choices (step s (input choice message)).1 u' reply).1,
        (dialogue step input react choices (step s (input choice message)).1 u' reply).2) := by
  simp only [dialogue, transition, hreact]

/-- A message that is not answered is the last transition, whatever choices are left. -/
theorem dialogue_of_silence
    (hreact : react u (step s (input choice message)).2 = (none, u')) :
    dialogue step input react (choice :: choices) s u message =
      ([transition step s (input choice message)], u') := by
  simp only [dialogue, transition, hreact]

/-! ## Among others -/

/-- A machine that a peer shares with others, and the message the peer has sent last. -/
structure Conversation (σ τ μ : Type) where
  machine : σ
  peer : τ
  pending : Option μ

/-- The machine takes up the message of the peer, or an input of somebody else. -/
inductive Turn (ι ρ : Type) where
  | peer (choice : ρ)
  | other (i : ι)

def Turn.isPeer : Turn ι ρ → Bool
  | peer _ => true
  | other _ => false

namespace Conversation

variable (step input react)

/-- Only what the machine puts out on a message of the peer is for the peer. -/
def turn (c : Conversation σ τ μ) : Turn ι ρ → Conversation σ τ μ
  | .peer choice =>
      match c.pending with
      | none => c
      | some message =>
          let next := step c.machine (input choice message)
          let answer := react c.peer next.2
          ⟨next.1, answer.2, answer.1⟩
  | .other i => { c with machine := (step c.machine i).1 }

/-- The conversation after some turns. -/
def after (c : Conversation σ τ μ) (turns : List (Turn ι ρ)) : Conversation σ τ μ :=
  turns.foldl (turn step input react) c

/-- Every input of somebody else is foreign to the peer in the state it finds. -/
def Undisturbed (foreign : σ → ι → Prop) (c : Conversation σ τ μ) : List (Turn ι ρ) → Prop
  | [] => True
  | t :: turns => (∀ i, t = .other i → foreign c.machine i) ∧
      Undisturbed foreign (c.turn step input react t) turns

variable {step input react}

/-- A message that is taken up is answered. -/
theorem turn_peer {c : Conversation σ τ μ} {reply : Option μ}
    (hpending : c.pending = some message)
    (hreact : react c.peer (step c.machine (input choice message)).2 = (reply, u')) :
    c.turn step input react (.peer choice) =
      ⟨(step c.machine (input choice message)).1, u', reply⟩ := by
  simp only [turn, hpending, hreact]

/-- A conversation in phases goes through them at the turns of the peer, whatever comes in
between, if nothing foreign takes it out of its phase. -/
theorem exists_phase_after {κ : Type} (phase : κ → Conversation σ τ μ → Prop) (left : κ → Nat)
    {foreign : σ → ι → Prop}
    (hpeer : ∀ k c choice, phase k c →
      ∃ k', phase k' (c.turn step input react (.peer choice)) ∧ left k' = left k - 1)
    (hother : ∀ k c i, phase k c → foreign c.machine i →
      phase k (c.turn step input react (.other i)))
    {c : Conversation σ τ μ} {k : κ} (hphase : phase k c) {turns : List (Turn ι ρ)}
    (hundisturbed : c.Undisturbed step input react foreign turns) :
    ∃ k', phase k' (c.after step input react turns) ∧
      left k' = left k - turns.countP Turn.isPeer := by
  induction turns generalizing c k with
  | nil => exact ⟨k, hphase, rfl⟩
  | cons t turns ih =>
      obtain ⟨hforeign, hrest⟩ := hundisturbed
      cases t with
      | peer choice =>
          obtain ⟨k', hphase', hleft⟩ := hpeer k c choice hphase
          obtain ⟨k'', hphase'', hleft'⟩ := ih hphase' hrest
          refine ⟨k'', hphase'', ?_⟩
          rw [hleft', hleft, List.countP_cons_of_pos rfl]
          omega
      | other i =>
          obtain ⟨k', hphase', hleft⟩ := ih (hother k c i hphase (hforeign i rfl)) hrest
          refine ⟨k', hphase', ?_⟩
          rw [hleft, List.countP_cons_of_neg Bool.false_ne_true]

end Conversation

end Mealy
