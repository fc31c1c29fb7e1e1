import Guardrail.Proofs.Approval.Votes

/-!
# Votes that do not count

A vote is answered with the status that it leads to, or with the first reason why it does not count:
the request is resolved, the voter is a stranger, the voter has voted before. A vote that does not
count leaves everything as it was, so a request is what the votes that count have made of it.
-/

namespace Guardrail.ApprovalRequest

variable {r : ApprovalRequest} {v : Vote} {e : ApprovalError} {s : ApprovalStatus}

/-! ## One vote -/

/-- What is answered to a vote: the new status, or why the vote does not count. -/
def answer (r : ApprovalRequest) (v : Vote) : Except ApprovalError ApprovalStatus :=
  (r.submit v.approver v.decision v.comment?).map ApprovalRequest.status

/-- Why a vote does not count. A later reason is given only if the earlier ones do not apply. -/
inductive Refuses (r : ApprovalRequest) (v : Vote) : ApprovalError → Prop
  | resolved (h : r.status ≠ .pending) : Refuses r v (.alreadyResolved r.status)
  | stranger (hp : r.status = .pending) (h : v.approver ∉ r.authorized) :
    Refuses r v (.unauthorized v.approver)
  | repeated (hp : r.status = .pending) (ha : v.approver ∈ r.authorized)
    (h : ∃ u ∈ r.votes, u.approver = v.approver) : Refuses r v (.duplicateApprover v.approver)

theorem answer_of_refuses (h : r.Refuses v e) : r.answer v = .error e := by
  rw [answer, submit]
  cases h with
  | resolved h =>
      rw [if_pos h]
      rfl
  | stranger hp h =>
      rw [if_neg (not_not_intro hp), if_pos h]
      rfl
  | repeated hp ha h =>
      have hany : r.votes.any (·.approver = v.approver) = true := by simpa using h
      rw [if_neg (not_not_intro hp), if_neg (not_not_intro ha), if_pos hany]
      rfl

theorem answer_of_admits (h : r.Admits v) : r.answer v = .ok (r.withVote v).status := by
  rw [answer, submit_of_admits h]
  rfl

/-- A vote that is not refused counts. -/
theorem admits_or_refuses (r : ApprovalRequest) (v : Vote) : r.Admits v ∨ ∃ e, r.Refuses v e := by
  by_cases hp : r.status = .pending
  · by_cases ha : v.approver ∈ r.authorized
    · by_cases hv : ∃ u ∈ r.votes, u.approver = v.approver
      · exact .inr ⟨_, .repeated hp ha hv⟩
      · exact .inl ⟨hp, ha, by simpa using hv⟩
    · exact .inr ⟨_, .stranger hp ha⟩
  · exact .inr ⟨_, .resolved hp⟩

theorem answer_eq_error_iff : r.answer v = .error e ↔ r.Refuses v e := by
  refine ⟨fun h => ?_, answer_of_refuses⟩
  rcases r.admits_or_refuses v with hv | ⟨e', hv⟩
  · rw [answer_of_admits hv] at h
    contradiction
  · rw [answer_of_refuses hv] at h
    exact Except.error.inj h ▸ hv

theorem answer_eq_ok_iff : r.answer v = .ok s ↔ r.Admits v ∧ s = (r.withVote v).status := by
  rcases r.admits_or_refuses v with hv | ⟨e, hv⟩
  · simp [answer_of_admits hv, hv, eq_comm]
  · have hno : ¬r.Admits v := by
      intro hadmits
      have h := answer_of_refuses hv
      rw [answer_of_admits hadmits] at h
      contradiction
    simp [answer_of_refuses hv, hno]

/-- A vote that does not count leaves no trace. -/
theorem cast_of_answer_error (h : r.answer v = .error e) : r.cast v = r := by
  apply cast_of_not_admits
  intro hv
  rw [answer_of_admits hv] at h
  contradiction

theorem cast_of_answer_ok (h : r.answer v = .ok s) :
    r.cast v = { r with votes := r.votes ++ [v], status := s } := by
  obtain ⟨hv, rfl⟩ := answer_eq_ok_iff.mp h
  rw [cast_of_admits hv]
  rfl

/-! ## Several votes -/

/-- The votes of several that count when they are cast in order. -/
def counted (r : ApprovalRequest) : List Vote → List Vote
  | [] => []
  | v :: votes =>
    match r.answer v with
    | .ok _ => v :: (r.cast v).counted votes
    | .error _ => r.counted votes

theorem castAll_cons (r : ApprovalRequest) (v : Vote) (votes : List Vote) :
    r.castAll (v :: votes) = (r.cast v).castAll votes := rfl

/-- The votes that do not count may as well not have been cast. -/
theorem castAll_counted (r : ApprovalRequest) (votes : List Vote) :
    r.castAll (r.counted votes) = r.castAll votes := by
  induction votes generalizing r with
  | nil => rfl
  | cons v votes ih =>
      rw [counted, castAll_cons]
      cases h : r.answer v with
      | ok s => exact ih (r.cast v)
      | error e =>
          rw [cast_of_answer_error h]
          exact ih r

theorem castAll_eq (r : ApprovalRequest) (votes : List Vote) :
    r.castAll votes =
      { r with votes := r.votes ++ r.counted votes, status := (r.castAll votes).status } := by
  induction votes generalizing r with
  | nil => simp [castAll, counted]
  | cons v votes ih =>
      rw [counted, castAll_cons]
      cases h : r.answer v with
      | ok s =>
          have hcast := cast_of_answer_ok h
          rw [ih (r.cast v), hcast]
          simp
      | error e =>
          rw [cast_of_answer_error h]
          exact ih r

/-- A vote is refused for the first reason that applies and leaves no trace then; otherwise it is
recorded, and the answer is the status. Whatever votes are cast, the request is as if those that
count had been cast alone. -/
theorem refused_or_recorded (r : ApprovalRequest) :
    (∀ v e, r.answer v = .error e ↔ r.Refuses v e) ∧
    (∀ v, (∃ s, r.answer v = .ok s) ↔ ∀ e, ¬r.Refuses v e) ∧
    (∀ v e, r.answer v = .error e → r.cast v = r) ∧
    (∀ v s, r.answer v = .ok s → r.cast v = { r with votes := r.votes ++ [v], status := s }) ∧
    ∀ votes, r.castAll votes = r.castAll (r.counted votes) ∧
      ∃ s, r.castAll votes = { r with votes := r.votes ++ r.counted votes, status := s } := by
  refine ⟨fun v e => answer_eq_error_iff, fun v => ?_, fun v e => cast_of_answer_error,
    fun v s => cast_of_answer_ok,
    fun votes => ⟨(castAll_counted r votes).symm, _, castAll_eq r votes⟩⟩
  simp only [← answer_eq_error_iff]
  cases r.answer v with
  | ok s => simp
  | error e => simp

/-- A stranger, a second vote and one on an approved request are refused; the request is as if the
other two votes had been cast alone. -/
theorem refused_beside_two_approvals :
    let opened := new "chg-42" "production" 2 ["alice", "bob"]
    let alice : Vote := ⟨"alice", .approve, none⟩
    let again : Vote := ⟨"alice", .reject, some "on second thoughts"⟩
    let mallory : Vote := ⟨"mallory", .reject, none⟩
    let bob : Vote := ⟨"bob", .approve, some "lgtm"⟩
    let r := opened.cast alice
    r.Refuses again (.duplicateApprover "alice") ∧
      r.answer again = .error (.duplicateApprover "alice") ∧ r.cast again = r ∧
      r.answer mallory = .error (.unauthorized "mallory") ∧
      r.answer bob = .ok .approved ∧
      r.cast bob = { r with votes := [alice, bob], status := .approved } ∧
      (r.cast bob).answer mallory = .error (.alreadyResolved .approved) ∧
      opened.castAll [alice, mallory, again, bob, mallory] = opened.castAll [alice, bob] := by
  intro opened alice again mallory bob r
  obtain ⟨hrefused, -, hunchanged, hrecorded, -⟩ := refused_or_recorded r
  obtain ⟨hresolved, -⟩ := refused_or_recorded (r.cast bob)
  obtain ⟨-, -, -, -, hvotes⟩ := refused_or_recorded opened
  have hagain : r.Refuses again (.duplicateApprover "alice") :=
    .repeated (by decide) (by decide) ⟨alice, by decide, rfl⟩
  have hmallory : r.Refuses mallory (.unauthorized "mallory") := .stranger (by decide) (by decide)
  have hlater : (r.cast bob).Refuses mallory (.alreadyResolved .approved) :=
    .resolved (r := r.cast bob) (by decide)
  have hanswer : r.answer again = .error (.duplicateApprover "alice") :=
    (hrefused again _).mpr hagain
  have hbob : r.answer bob = .ok .approved := rfl
  exact ⟨hagain, hanswer, hunchanged again _ hanswer, (hrefused mallory _).mpr hmallory, hbob,
    hrecorded bob _ hbob, (hresolved mallory _).mpr hlater, (hvotes _).1⟩

end Guardrail.ApprovalRequest
