import Mathlib.Tactic.Common

/-!
# Pictures predicted from stored pictures

A coded frame is decoded with the help of the buffers it refers to, and its
picture is stored in the buffers it updates.  If the buffers have levels such
that no frame refers to a buffer above its layer or updates one below it, the
frames up to a layer can be decoded without the others.
-/

namespace GroupVoip.Library.ReferenceFrames

variable {β δ π : Type}

/-- A coded frame with the buffers it refers to and those it updates. -/
structure CodedFrame (β δ : Type) where
  refs : β → Bool
  updates : β → Bool
  data : δ

namespace CodedFrame

variable (reconstruct : δ → (β → Option π) → π) (buffers : β → Option π)
  (frame : CodedFrame β δ)

/-- What is stored in the buffers that the frame refers to. -/
def predictors (b : β) : Option π :=
  if frame.refs b then buffers b else none

def picture : π :=
  reconstruct frame.data (frame.predictors buffers)

def store (picture : π) (b : β) : Option π :=
  if frame.updates b then some picture else buffers b

end CodedFrame

open CodedFrame

/-- The pictures of frames in several layers, each with its layer. -/
def decode (reconstruct : δ → (β → Option π) → π) :
    (β → Option π) → List (Nat × CodedFrame β δ) → List (Nat × π)
  | _, [] => []
  | buffers, (layer, frame) :: rest =>
      let picture := frame.picture reconstruct buffers
      (layer, picture) ::
        decode reconstruct (frame.store buffers picture) rest

/-- The frame keeps to its layer. -/
structure Layered (level : β → Nat) (layer : Nat) (frame : CodedFrame β δ) :
    Prop where
  refs_le : ∀ b, frame.refs b = true → level b ≤ layer
  le_updates : ∀ b, frame.updates b = true → layer ≤ level b

/-- The buffers up to a level are the same. -/
def Agree (level : β → Nat) (top : Nat) (first second : β → Option π) : Prop :=
  ∀ b, level b ≤ top → first b = second b

variable {level : β → Nat} {layer top : Nat} {frame : CodedFrame β δ}
  {first second : β → Option π}

/-- A frame up to the layer has the same picture. -/
theorem Agree.picture_eq (agree : Agree level top first second)
    (layered : Layered level layer frame) (below : layer ≤ top)
    (reconstruct : δ → (β → Option π) → π) :
    frame.picture reconstruct first = frame.picture reconstruct second := by
  have same : frame.predictors first = frame.predictors second := by
    funext b
    rw [predictors, predictors]
    by_cases refers : frame.refs b = true
    · rw [if_pos refers, if_pos refers]
      exact agree b (Nat.le_trans (layered.refs_le b refers) below)
    · rw [if_neg refers, if_neg refers]
  rw [picture, picture, same]

theorem Agree.store (agree : Agree level top first second) (picture : π) :
    Agree level top (frame.store first picture)
      (frame.store second picture) := by
  intro b isLow
  rw [CodedFrame.store, CodedFrame.store, agree b isLow]

/-- A frame above the layer leaves the buffers below alone. -/
theorem Agree.skip (agree : Agree level top first second)
    (layered : Layered level layer frame) (above : top < layer)
    (picture : π) : Agree level top (frame.store first picture) second := by
  intro b isLow
  rw [CodedFrame.store]
  by_cases updated : frame.updates b = true
  · have isHigh := layered.le_updates b updated
    omega
  · rw [if_neg updated]
    exact agree b isLow

/-- The pictures up to a layer do not depend on the frames above it. -/
theorem Agree.decode_filter (agree : Agree level top first second)
    (reconstruct : δ → (β → Option π) → π)
    {frames : List (Nat × CodedFrame β δ)}
    (layered : ∀ e ∈ frames, Layered level e.1 e.2) :
    (decode reconstruct first frames).filter (fun e => decide (e.1 ≤ top)) =
      decode reconstruct second
        (frames.filter fun e => decide (e.1 ≤ top)) := by
  induction frames generalizing first second with
  | nil => rfl
  | cons e rest inductionHypothesis =>
      obtain ⟨layer, frame⟩ := e
      rw [List.forall_mem_cons] at layered
      obtain ⟨here, later⟩ := layered
      by_cases below : layer ≤ top
      · rw [List.filter_cons_of_pos (by simpa using below), decode, decode,
          List.filter_cons_of_pos (by simpa using below),
          agree.picture_eq here below reconstruct,
          inductionHypothesis (agree.store _) later]
      · rw [List.filter_cons_of_neg (by simpa using below), decode,
          List.filter_cons_of_neg (by simpa using below)]
        exact inductionHypothesis (agree.skip here (by omega) _) later

end GroupVoip.Library.ReferenceFrames
