import WideColumn.Proofs.Store.Alteration
import WideColumn.Store.Faults

/-!
# What a write does to a store

A write is one call. If it fails it leaves the store alone, whatever the reason, and a write that is
tried again after failures therefore takes effect at most once. The store may stand behind anything
that lets a call pass or fails it, such as a script of failures.
-/
namespace WideColumn

/-- A store behind something that lets each call pass or fails it and leaves the store alone. -/
def Backend.Over (backend : Backend σ) (contents : σ → Store) : Prop :=
  ∀ call state,
    ((backend call state).1 = (call.run (contents state)).1 ∧
      contents (backend call state).2 = (call.run (contents state)).2) ∨
    ∃ error, (backend call state).1 = .error error ∧
      contents (backend call state).2 = contents state

/-- A script of failures lets each call pass or fails it. -/
theorem FaultyStore.answer_over : Backend.Over FaultyStore.answer FaultyStore.store := by
  intro call faulty
  unfold answer
  cases call.operation? with
  | none => exact .inl ⟨rfl, rfl⟩
  | some addressed =>
    obtain ⟨kind, key⟩ := addressed
    cases planned : takeFault key faulty.plans with
    | mk fault plans =>
      cases fault with
      | none =>
        left
        simp [planned]
      | some error =>
        right
        exact ⟨error, by simp [planned]⟩

namespace Request

/-- A write has no filter. -/
theorem toCall_of_isWrite {request : Request} (isWrite : request.kind.isWrite = true)
    (filter : Option Store.Filter) : request.toCall filter = request.call := by
  cases request with
  | put | append | delete => rfl
  | get | scan => cases isWrite

/-- A failed write leaves the store alone, since only a refusal makes it fail. -/
theorem run_call_error {request : Request} (isWrite : request.kind.isWrite = true) {store : Store}
    {error : Error} (failed : (request.call.run store).1 = .error error) :
    (request.call.run store).2 = store := by
  cases admitted : request.admission store with
  | error refusal => rw [run_refused admitted]
  | ok table =>
    rw [run_admitted isWrite admitted] at failed
    cases failed

/-- What does not change data leaves the store alone. -/
theorem run_read {request : Request} (isRead : request.kind.isWrite = false)
    (filter : Option Store.Filter) (store : Store) :
    ((request.toCall filter).run store).2 = store := by
  cases request with
  | get | scan => rfl
  | put | append | delete => cases isRead

end Request

namespace Submission

variable {σ : Type} {backend : Backend σ} {contents : σ → Store}

/-- What one attempt at a write does: it takes effect and resolves with what the store answers, or
it fails and leaves the store alone. -/
theorem execute_write (behind : backend.Over contents) {request : Request}
    (isWrite : request.kind.isWrite = true) (filter : Option Store.Filter) (state : σ) :
    (∃ reply, ((request : Submission).execute backend filter state).1 = .ok (request.result reply) ∧
      (request.call.run (contents state)).1 = .ok reply ∧
      contents ((request : Submission).execute backend filter state).2 =
        (request.call.run (contents state)).2) ∨
    ∃ error, ((request : Submission).execute backend filter state).1 = .error error ∧
      contents ((request : Submission).execute backend filter state).2 = contents state := by
  unfold execute
  simp only [Request.toCall_of_isWrite isWrite]
  rcases behind request.call state with ⟨answer, effect⟩ | ⟨error, answer, effect⟩
  · cases answered : backend request.call state with
    | mk reply after =>
      rw [answered] at answer effect
      cases reply with
      | ok reply =>
        left
        exact ⟨reply, rfl, answer.symm, effect⟩
      | error error =>
        right
        refine ⟨_, rfl, ?_⟩
        exact effect.trans (Request.run_call_error isWrite answer.symm)
  · cases answered : backend request.call state with
    | mk reply after =>
      rw [answered] at answer effect
      simp only at answer effect
      subst answer
      right
      exact ⟨_, rfl, effect⟩

/-- An attempt at anything but a write leaves the store alone. -/
theorem execute_other (behind : backend.Over contents) {submission : Submission}
    (other : ∀ request, submission = .request request → request.kind.isWrite = false)
    (filter : Option Store.Filter) (state : σ) :
    contents (submission.execute backend filter state).2 = contents state := by
  cases submission with
  | request described =>
    have kept := Request.run_read (other described rfl) filter (contents state)
    unfold execute
    cases answered : backend (described.toCall filter) state with
    | mk reply after =>
      have effect : contents after = contents state := by
        rcases behind (described.toCall filter) state with ⟨_, effect⟩ | ⟨error, _, effect⟩
        · rw [answered] at effect
          exact effect.trans kept
        · rw [answered] at effect
          exact effect
      cases reply with
      | ok reply =>
        simp only [answered]
        exact effect
      | error error =>
        simp only [answered]
        exact effect
  | lookalike | value => rfl

end Submission
end WideColumn
