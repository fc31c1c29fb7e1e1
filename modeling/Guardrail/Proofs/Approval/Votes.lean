import Guardrail.Approval.Request

/-!
# Votes on approval requests

The votes that a request has recorded say what its status is. Every vote that is cast, counted or
not, keeps it so, and a request that is resolved keeps everything.
-/

namespace Guardrail

namespace ApprovalRequest

/-! ## Casting votes -/

/-- The request after a vote has been cast; a vote that does not count changes nothing. -/
def cast (r : ApprovalRequest) (v : Vote) : ApprovalRequest :=
  match r.submit v.approver v.decision v.comment? with
  | .ok r' => r'
  | .error _ => r

/-- The request after several votes have been cast in order. -/
def castAll (r : ApprovalRequest) (votes : List Vote) : ApprovalRequest :=
  votes.foldl cast r

/-- The request with a further vote. -/
def withVote (r : ApprovalRequest) (v : Vote) : ApprovalRequest :=
  { r with
    votes := r.votes ++ [v]
    status := { r with votes := r.votes ++ [v] }.statusAfter v.decision }

/-- Whether a vote counts: the request is open, and somebody authorised votes for the first time. -/
structure Admits (r : ApprovalRequest) (v : Vote) : Prop where
  pending : r.status = .pending
  authorized : v.approver ∈ r.authorized
  first : v.approver ∉ r.votes.map Vote.approver

theorem submit_of_not_pending {r : ApprovalRequest} (h : r.status ≠ .pending) (v : Vote) :
    r.submit v.approver v.decision v.comment? = .error (.alreadyResolved r.status) := by
  rw [submit, if_pos h]

theorem submit_of_admits {r : ApprovalRequest} {v : Vote} (h : r.Admits v) :
    r.submit v.approver v.decision v.comment? = .ok (r.withVote v) := by
  have hfirst : ¬ r.votes.any (·.approver = v.approver) = true := by
    simpa using h.first
  rw [submit, if_neg (not_not_intro h.pending), if_neg (not_not_intro h.authorized),
    if_neg hfirst]
  rfl

theorem submit_of_not_admits {r : ApprovalRequest} {v : Vote} (h : ¬ r.Admits v) :
    ∃ e, r.submit v.approver v.decision v.comment? = .error e := by
  by_cases hp : r.status = .pending
  · by_cases ha : v.approver ∈ r.authorized
    · by_cases hv : r.votes.any (·.approver = v.approver) = true
      · exact ⟨_, by rw [submit, if_neg (not_not_intro hp), if_neg (not_not_intro ha), if_pos hv]⟩
      · exact absurd ⟨hp, ha, by simpa using hv⟩ h
    · exact ⟨_, by rw [submit, if_neg (not_not_intro hp), if_pos ha]⟩
  · exact ⟨_, submit_of_not_pending hp v⟩

theorem cast_of_admits {r : ApprovalRequest} {v : Vote} (h : r.Admits v) :
    r.cast v = r.withVote v := by
  rw [cast, submit_of_admits h]

theorem cast_of_not_admits {r : ApprovalRequest} {v : Vote} (h : ¬ r.Admits v) :
    r.cast v = r := by
  obtain ⟨e, he⟩ := submit_of_not_admits h
  rw [cast, he]

theorem castAll_of_not_pending {r : ApprovalRequest} (h : r.status ≠ .pending)
    (votes : List Vote) : r.castAll votes = r := by
  induction votes with
  | nil => rfl
  | cons v votes ih =>
      have hv : ¬ r.Admits v := fun ha => h ha.pending
      rw [castAll, List.foldl_cons, cast_of_not_admits hv]
      exact ih

/-! ## What the votes say -/

/-- The votes that lead to a status: all are for the change, and there are too few or just enough
of them, or one against it follows votes for it. -/
def LeadTo (required : Nat) (votes : List Vote) : ApprovalStatus → Prop
  | .pending => (∀ v ∈ votes, v.decision = .approve) ∧ votes.length < required
  | .approved => (∀ v ∈ votes, v.decision = .approve) ∧ votes.length = required
  | .rejected => ∃ front v, votes = front ++ [v] ∧ (∀ u ∈ front, u.decision = .approve) ∧
      v.decision = .reject

/-- What every vote keeps. -/
structure IsSound (r : ApprovalRequest) : Prop where
  required_pos : 1 ≤ r.required
  distinct : (r.votes.map Vote.approver).Nodup
  authorized : ∀ v ∈ r.votes, v.approver ∈ r.authorized
  leadTo : LeadTo r.required r.votes r.status

theorem isSound_new (changeId environment : String) (required : Nat) (approvers : List String) :
    (new changeId environment required approvers).IsSound where
  required_pos := Nat.le_max_right required 1
  distinct := List.nodup_nil
  authorized := by simp [new]
  leadTo := ⟨by simp [new], Nat.le_max_right required 1⟩

theorem countP_of_forall_approve {votes : List Vote} (h : ∀ v ∈ votes, v.decision = .approve) :
    votes.countP (·.decision = .approve) = votes.length := by
  rw [List.countP_eq_length]
  simpa using h

theorem status_withVote_of_reject {r : ApprovalRequest} {v : Vote} (h : v.decision = .reject) :
    (r.withVote v).status = .rejected := by
  simp [withVote, statusAfter, h]

theorem forall_approve_withVote {r : ApprovalRequest} {v : Vote}
    (hall : ∀ u ∈ r.votes, u.decision = .approve) (h : v.decision = .approve) :
    ∀ u ∈ r.votes ++ [v], u.decision = .approve := by
  intro u hu
  rcases List.mem_append.mp hu with hu | hu
  · exact hall u hu
  · rw [List.mem_singleton.mp hu, h]

theorem status_withVote_of_approve {r : ApprovalRequest} {v : Vote}
    (hall : ∀ u ∈ r.votes, u.decision = .approve) (h : v.decision = .approve) :
    (r.withVote v).status = if r.required ≤ r.votes.length + 1 then .approved else .pending := by
  have hcount := countP_of_forall_approve (forall_approve_withVote hall h)
  simp only [withVote, statusAfter, h, approvalCount, hcount, List.length_append,
    List.length_singleton]

theorem leadTo_withVote {r : ApprovalRequest} {v : Vote}
    (h : LeadTo r.required r.votes .pending) :
    LeadTo r.required (r.withVote v).votes (r.withVote v).status := by
  obtain ⟨hall, hlt⟩ := h
  cases hd : v.decision with
  | reject =>
      rw [status_withVote_of_reject hd]
      exact ⟨r.votes, v, rfl, hall, hd⟩
  | approve =>
      have hall' := forall_approve_withVote hall hd
      have hlen : (r.votes ++ [v]).length = r.votes.length + 1 := List.length_append
      rw [status_withVote_of_approve hall hd]
      split
      · exact ⟨hall', by simp only [withVote, hlen]; omega⟩
      · exact ⟨hall', by simp only [withVote, hlen]; omega⟩

theorem IsSound.cast {r : ApprovalRequest} (h : r.IsSound) (v : Vote) : (r.cast v).IsSound := by
  by_cases ha : r.Admits v
  · rw [cast_of_admits ha]
    have hpending : LeadTo r.required r.votes .pending := ha.pending ▸ h.leadTo
    refine
      { required_pos := h.required_pos
        distinct := ?_
        authorized := ?_
        leadTo := leadTo_withVote hpending }
    · have hnew : ∀ a ∈ r.votes.map Vote.approver, a ≠ v.approver := by
        intro a hm he
        exact ha.first (he ▸ hm)
      simpa [withVote, List.nodup_append] using ⟨h.distinct, by simpa using hnew⟩
    · intro u hu
      rcases List.mem_append.mp hu with hu | hu
      · exact h.authorized u hu
      · rw [List.mem_singleton.mp hu]
        exact ha.authorized
  · rwa [cast_of_not_admits ha]

theorem IsSound.castAll {r : ApprovalRequest} (h : r.IsSound) (votes : List Vote) :
    (r.castAll votes).IsSound := by
  induction votes generalizing r with
  | nil => exact h
  | cons v votes ih => exact ih (h.cast v)

/-- What no vote changes. -/
theorem frame_cast (r : ApprovalRequest) (v : Vote) :
    (r.cast v).required = r.required ∧ (r.cast v).authorized = r.authorized := by
  by_cases ha : r.Admits v
  · rw [cast_of_admits ha]
    exact ⟨rfl, rfl⟩
  · rw [cast_of_not_admits ha]
    exact ⟨rfl, rfl⟩

theorem frame_castAll (r : ApprovalRequest) (votes : List Vote) :
    (r.castAll votes).required = r.required ∧ (r.castAll votes).authorized = r.authorized := by
  induction votes generalizing r with
  | nil => exact ⟨rfl, rfl⟩
  | cons v votes ih =>
      obtain ⟨hr, ha⟩ := frame_cast r v
      obtain ⟨hrs, has⟩ := ih (r.cast v)
      exact ⟨hrs.trans hr, has.trans ha⟩

/-! ## Reading the status off the votes -/

/-- A request accounts for its status by the votes that have been cast since it was opened. -/
structure Accounts (opened r : ApprovalRequest) : Prop where
  required_pos : 1 ≤ r.required
  required_eq : r.required = opened.required
  authorized_eq : r.authorized = opened.authorized
  distinct : (r.votes.map Vote.approver).Nodup
  authorized : ∀ v ∈ r.votes, v.approver ∈ r.authorized
  rejections : r.votes.countP (·.decision = .reject) ≤ 1
  reject_last : ∀ front v back, r.votes = front ++ v :: back → v.decision = .reject → back = []
  rejected_iff : r.status = .rejected ↔ r.votes.getLast?.map Vote.decision = some .reject
  approved_iff : r.status = .approved ↔
    (∀ v ∈ r.votes, v.decision ≠ .reject) ∧ r.approvalCount = r.required
  pending_iff : r.status = .pending ↔
    (∀ v ∈ r.votes, v.decision ≠ .reject) ∧ r.approvalCount < r.required

theorem LeadTo.of_ne_rejected {required : Nat} {votes : List Vote} {s : ApprovalStatus}
    (h : LeadTo required votes s) (hs : s ≠ .rejected) : ∀ v ∈ votes, v.decision = .approve := by
  cases s with
  | pending => exact h.1
  | approved => exact h.1
  | rejected => exact absurd rfl hs

theorem LeadTo.rejections {required : Nat} {votes : List Vote} {s : ApprovalStatus}
    (h : LeadTo required votes s) : votes.countP (·.decision = .reject) ≤ 1 := by
  have hnone : ∀ us : List Vote, (∀ u ∈ us, u.decision = .approve) →
      us.countP (·.decision = .reject) = 0 := by
    intro us hus
    rw [List.countP_eq_zero]
    intro u hu
    simp [hus u hu]
  by_cases hs : s = .rejected
  · subst hs
    obtain ⟨front, v, rfl, hall, hv⟩ := h
    simp [hnone front hall, hv]
  · rw [hnone votes (h.of_ne_rejected hs)]
    exact Nat.zero_le 1

theorem LeadTo.reject_last {required : Nat} {votes : List Vote} {s : ApprovalStatus}
    (h : LeadTo required votes s) {front back : List Vote} {v : Vote}
    (hv : votes = front ++ v :: back) (hd : v.decision = .reject) : back = [] := by
  cases s with
  | rejected =>
      obtain ⟨front', v', rfl, hall, -⟩ := h
      -- a vote with others behind it is among those in front of the last one
      rcases List.eq_nil_or_concat back with rfl | ⟨back', u, rfl⟩
      · rfl
      · have hfront : front' = front ++ v :: back' := by
          have h' : front' ++ [v'] = (front ++ v :: back') ++ [u] := by simpa using hv
          exact (List.append_inj' h' rfl).1
        have happrove := hall v (by simp [hfront])
        rw [hd] at happrove
        contradiction
  | pending => exact absurd (h.1 v (by simp [hv])) (by simp [hd])
  | approved => exact absurd (h.1 v (by simp [hv])) (by simp [hd])

theorem LeadTo.rejected_iff {required : Nat} {votes : List Vote} {s : ApprovalStatus}
    (h : LeadTo required votes s) :
    s = .rejected ↔ votes.getLast?.map Vote.decision = some .reject := by
  constructor
  · rintro rfl
    obtain ⟨front, v, rfl, -, hd⟩ := h
    simp [hd]
  · intro hlast
    obtain ⟨v, hv, hd⟩ := Option.map_eq_some_iff.mp hlast
    by_cases hs : s = .rejected
    · exact hs
    · have happrove := h.of_ne_rejected hs v (List.mem_of_getLast? hv)
      rw [hd] at happrove
      contradiction

theorem LeadTo.forall_ne_reject_iff {required : Nat} {votes : List Vote} {s : ApprovalStatus}
    (h : LeadTo required votes s) : (∀ v ∈ votes, v.decision ≠ .reject) ↔ s ≠ .rejected := by
  constructor
  · rintro hne rfl
    obtain ⟨front, v, rfl, -, hd⟩ := h
    exact hne v (by simp) hd
  · intro hs v hv
    rw [h.of_ne_rejected hs v hv]
    exact Decision.noConfusion

theorem IsSound.approved_iff {r : ApprovalRequest} (h : r.IsSound) :
    r.status = .approved ↔
      (∀ v ∈ r.votes, v.decision ≠ .reject) ∧ r.approvalCount = r.required := by
  have hl := h.leadTo
  rw [hl.forall_ne_reject_iff]
  cases hs : r.status with
  | rejected => simp
  | pending =>
      rw [hs] at hl
      have hlt := hl.2
      simp [approvalCount, countP_of_forall_approve hl.1, Nat.ne_of_lt hlt]
  | approved =>
      rw [hs] at hl
      simp [approvalCount, countP_of_forall_approve hl.1, hl.2]

theorem IsSound.pending_iff {r : ApprovalRequest} (h : r.IsSound) :
    r.status = .pending ↔
      (∀ v ∈ r.votes, v.decision ≠ .reject) ∧ r.approvalCount < r.required := by
  have hl := h.leadTo
  rw [hl.forall_ne_reject_iff]
  cases hs : r.status with
  | rejected => simp
  | pending =>
      rw [hs] at hl
      simp [approvalCount, countP_of_forall_approve hl.1, hl.2]
  | approved =>
      rw [hs] at hl
      simp [approvalCount, countP_of_forall_approve hl.1, hl.2]

/-- Whatever votes are cast on a new request, it accounts for its status; the next vote is recorded
if it counts, and none is once the request is resolved. -/
theorem accounts_castAll_new (changeId environment : String) (required : Nat)
    (approvers : List String) (votes : List Vote) :
    let opened := new changeId environment required approvers
    let r := opened.castAll votes
    opened.Accounts r ∧ (∀ v, r.Admits v → (r.cast v).votes = r.votes ++ [v]) ∧
      (r.status ≠ .pending → ∀ later, r.castAll later = r) := by
  intro opened r
  have h : r.IsSound := (isSound_new changeId environment required approvers).castAll votes
  obtain ⟨hrequired, hauthorized⟩ := frame_castAll opened votes
  refine ⟨?_, ?_, castAll_of_not_pending⟩
  · exact
      { required_pos := h.required_pos
        required_eq := hrequired
        authorized_eq := hauthorized
        distinct := h.distinct
        authorized := h.authorized
        rejections := h.leadTo.rejections
        reject_last := fun _ _ _ => h.leadTo.reject_last
        rejected_iff := h.leadTo.rejected_iff
        approved_iff := h.approved_iff
        pending_iff := h.pending_iff }
  · intro v hv
    rw [cast_of_admits hv]
    rfl

/-- Strangers and people who vote again do not count, and nobody does behind the second approval. -/
theorem accounts_after_two_approvals :
    let opened := new "chg-42" "production" 2 ["carol", "alice", "bob", "alice"]
    let votes : List Vote :=
      [⟨"alice", .approve, none⟩, ⟨"mallory", .reject, none⟩, ⟨"alice", .reject, none⟩]
    let bob : Vote := ⟨"bob", .approve, some "lgtm"⟩
    let r := opened.castAll votes
    let settled := opened.castAll (votes ++ [bob])
    opened.Accounts r ∧ r.Admits bob ∧ (r.cast bob).votes = r.votes ++ [bob] ∧
      settled.status = .approved ∧ settled.castAll [⟨"carol", .reject, none⟩] = settled := by
  intro opened votes bob r settled
  have hbob : r.Admits bob := ⟨by decide, by decide, by decide⟩
  obtain ⟨hr, hnext, -⟩ :=
    accounts_castAll_new "chg-42" "production" 2 ["carol", "alice", "bob", "alice"] votes
  obtain ⟨-, -, hlater⟩ :=
    accounts_castAll_new "chg-42" "production" 2 ["carol", "alice", "bob", "alice"]
      (votes ++ [bob])
  have hsettled : settled.status = .approved := by decide
  exact ⟨hr, hbob, hnext bob hbob, hsettled, hlater (by decide) _⟩

end ApprovalRequest

end Guardrail
