import Guardrail.Proofs.Approval.Votes
import Mathlib.Data.Finset.Card
import Mathlib.Data.List.Dedup
import Mathlib.Data.List.TakeWhile

/-!
# The order of votes

Different authorised people vote on a request that has just been opened. Their votes up to the first
one against the change decide what becomes of it, so the order matters only if enough of them are
for the change and somebody is against it. A request can be approved exactly if enough people may
vote.
-/

namespace Guardrail.ApprovalRequest

/-! ## Votes that all count -/

/-- Votes of different authorised people who have not voted before. -/
structure Awaits (r : ApprovalRequest) (votes : List Vote) : Prop where
  distinct : (votes.map Vote.approver).Nodup
  authorized : ∀ v ∈ votes, v.approver ∈ r.authorized
  first : ∀ v ∈ votes, v.approver ∉ r.votes.map Vote.approver

variable {r : ApprovalRequest} {v : Vote} {votes : List Vote}

theorem Awaits.admits (h : r.Awaits (v :: votes)) (hp : r.status = .pending) : r.Admits v :=
  ⟨hp, h.authorized v List.mem_cons_self, h.first v List.mem_cons_self⟩

theorem Awaits.withVote (h : r.Awaits (v :: votes)) : (r.withVote v).Awaits votes where
  distinct := (List.nodup_cons.mp h.distinct).2
  authorized := fun u hu => h.authorized u (List.mem_cons_of_mem v hu)
  first := by
    intro u hu hmem
    rw [ApprovalRequest.withVote, List.map_append, List.mem_append, List.map_singleton,
      List.mem_singleton] at hmem
    rcases hmem with hmem | heq
    · exact h.first u (List.mem_cons_of_mem v hu) hmem
    · exact (List.nodup_cons.mp h.distinct).1 (heq ▸ List.mem_map_of_mem hu)

theorem Awaits.of_perm {order : List Vote} (h : r.Awaits votes) (hperm : order.Perm votes) :
    r.Awaits order where
  distinct := (hperm.map Vote.approver).nodup_iff.mpr h.distinct
  authorized := fun u hu => h.authorized u (hperm.mem_iff.mp hu)
  first := fun u hu => h.first u (hperm.mem_iff.mp hu)

/-- The votes in front of the first one against the change decide. -/
theorem status_castAll (hr : r.IsSound) (hp : r.status = .pending) (h : r.Awaits votes) :
    (r.castAll votes).status =
      if r.required ≤ r.votes.length + (votes.takeWhile (·.decision = .approve)).length then
        .approved
      else if votes.all (·.decision = .approve) then .pending else .rejected := by
  induction votes generalizing r with
  | nil =>
      obtain ⟨-, hlt⟩ : LeadTo r.required r.votes .pending := hp ▸ hr.leadTo
      simpa [castAll, hp] using hlt
  | cons v votes ih =>
      have hadmits : r.Admits v := h.admits hp
      obtain ⟨hall, hlt⟩ : LeadTo r.required r.votes .pending := hp ▸ hr.leadTo
      have hstep : r.castAll (v :: votes) = (r.withVote v).castAll votes := by
        rw [castAll, List.foldl_cons, cast_of_admits hadmits, castAll]
      rw [hstep]
      cases hd : v.decision with
      | reject =>
          have hstatus : (r.withVote v).status = .rejected := status_withVote_of_reject hd
          have hclosed : (r.withVote v).status ≠ .pending := by simp [hstatus]
          rw [castAll_of_not_pending hclosed, hstatus]
          simp [hd, hlt]
      | approve =>
          have hstatus := status_withVote_of_approve hall hd
          by_cases henough : r.required ≤ r.votes.length + 1
          · rw [if_pos henough] at hstatus
            have hclosed : (r.withVote v).status ≠ .pending := by simp [hstatus]
            have hlater : r.required ≤
                r.votes.length + ((v :: votes).takeWhile (·.decision = .approve)).length := by
              simp [hd]
              omega
            rw [castAll_of_not_pending hclosed, hstatus, if_pos hlater]
          · rw [if_neg henough] at hstatus
            have hsound : (r.withVote v).IsSound := cast_of_admits hadmits ▸ hr.cast v
            have hlength : (r.withVote v).votes.length = r.votes.length + 1 := List.length_append
            have hrequired : (r.withVote v).required = r.required := rfl
            rw [ih hsound hstatus h.withVote, hlength, hrequired]
            simp [hd, Nat.add_assoc, Nat.add_comm 1]

/-! ## Requests as they are opened -/

/-- A request that has just been opened for the given people. -/
inductive Opens (approvers : List String) : ApprovalRequest → Prop
  | new (changeId environment : String) (required : Nat) :
    Opens approvers (.new changeId environment required approvers)
  | ofEvaluation {result : PolicyResult} {changeId environment : String}
    {requirements : ApprovalRequirements} {r : ApprovalRequest}
    (h : ofEvaluation? result changeId environment requirements approvers = some r) :
    Opens approvers r

variable {approvers : List String}

/-- Apart from its reasons, a request opened for an evaluation is like any other. -/
theorem Opens.exists_eq (h : Opens approvers r) :
    ∃ changeId environment required reasons,
      r = { ApprovalRequest.new changeId environment required approvers with reasons } := by
  cases h with
  | new changeId environment required => exact ⟨changeId, environment, required, [], rfl⟩
  | @ofEvaluation result changeId environment requirements r h =>
      rw [ofEvaluation?, Option.ite_none_right_eq_some] at h
      exact ⟨changeId, environment, _, _, (Option.some.inj h.2).symm⟩

theorem Opens.isSound (h : Opens approvers r) : r.IsSound := by
  obtain ⟨changeId, environment, required, reasons, rfl⟩ := h.exists_eq
  have hnew := isSound_new changeId environment required approvers
  exact ⟨hnew.required_pos, hnew.distinct, hnew.authorized, hnew.leadTo⟩

theorem Opens.pending (h : Opens approvers r) : r.status = .pending := by
  obtain ⟨changeId, environment, required, reasons, rfl⟩ := h.exists_eq
  rfl

theorem Opens.votes_eq_nil (h : Opens approvers r) : r.votes = [] := by
  obtain ⟨changeId, environment, required, reasons, rfl⟩ := h.exists_eq
  rfl

theorem Opens.mem_authorized_iff (h : Opens approvers r) {a : String} :
    a ∈ r.authorized ↔ a ∈ approvers := by
  obtain ⟨changeId, environment, required, reasons, rfl⟩ := h.exists_eq
  exact Text.mem_nameSet

theorem Opens.awaits (h : Opens approvers r) (hdistinct : (votes.map Vote.approver).Nodup)
    (hauthorized : ∀ v ∈ votes, v.approver ∈ approvers) : r.Awaits votes where
  distinct := hdistinct
  authorized := fun v hv => h.mem_authorized_iff.mpr (hauthorized v hv)
  first := by simp [h.votes_eq_nil]

theorem Opens.status_castAll_of_approve (hopen : Opens approvers r) (h : r.Awaits votes)
    (hall : ∀ v ∈ votes, v.decision = .approve) :
    (r.castAll votes).status = if r.required ≤ votes.length then .approved else .pending := by
  have hfront : votes.takeWhile (·.decision = .approve) = votes :=
    List.takeWhile_eq_self_iff.mpr (by simpa using hall)
  have hrest : votes.all (·.decision = .approve) = true := by simpa using hall
  rw [status_castAll hopen.isSound hopen.pending h, hopen.votes_eq_nil, hfront, hrest]
  simp

theorem Opens.status_castAll_of_reject (hopen : Opens approvers r) (h : r.Awaits votes)
    (hreject : ∃ v ∈ votes, v.decision = .reject)
    (hfew : votes.countP (·.decision = .approve) < r.required) :
    (r.castAll votes).status = .rejected := by
  let front := votes.takeWhile (·.decision = .approve)
  have hfor : ∀ v ∈ front, decide (v.decision = .approve) = true :=
    fun v hv => List.mem_takeWhile_imp (p := fun v : Vote => decide (v.decision = .approve)) hv
  have hfront : front.length < r.required := by
    calc front.length
        = front.countP (·.decision = .approve) := (List.countP_eq_length.mpr hfor).symm
      _ ≤ votes.countP (·.decision = .approve) := (List.takeWhile_sublist _).countP_le
      _ < r.required := hfew
  have hrest : ¬ votes.all (·.decision = .approve) = true := by
    obtain ⟨v, hv, hd⟩ := hreject
    intro hall
    have happrove := List.all_eq_true.mp hall v hv
    simp [hd] at happrove
  rw [status_castAll hopen.isSound hopen.pending h, hopen.votes_eq_nil,
    if_neg (by simpa using hfront), if_neg hrest]

/-! ## Whether a request can be approved -/

theorem Opens.required_le_of_approved (hopen : Opens approvers r)
    (h : (r.castAll votes).status = .approved) : r.required ≤ approvers.toFinset.card := by
  have hsound : (r.castAll votes).IsSound := hopen.isSound.castAll votes
  obtain ⟨hrequired, hauthorized⟩ := frame_castAll r votes
  obtain ⟨-, hlength⟩ : LeadTo (r.castAll votes).required (r.castAll votes).votes .approved :=
    h ▸ hsound.leadTo
  have hsub : ((r.castAll votes).votes.map Vote.approver).toFinset ⊆ approvers.toFinset := by
    intro a ha
    obtain ⟨v, hv, rfl⟩ := List.mem_map.mp (List.mem_toFinset.mp ha)
    have hmem : v.approver ∈ r.authorized := hauthorized ▸ hsound.authorized v hv
    exact List.mem_toFinset.mpr (hopen.mem_authorized_iff.mp hmem)
  calc r.required = (r.castAll votes).votes.length := by rw [hlength, hrequired]
    _ = ((r.castAll votes).votes.map Vote.approver).toFinset.card := by
      rw [List.toFinset_card_of_nodup hsound.distinct, List.length_map]
    _ ≤ approvers.toFinset.card := Finset.card_le_card hsub

theorem Opens.exists_approved (hopen : Opens approvers r)
    (h : r.required ≤ approvers.toFinset.card) :
    ∃ votes, (r.castAll votes).status = .approved := by
  -- everybody who may vote is for the change
  let votes := approvers.dedup.map fun a => Vote.mk a .approve none
  have hnames : votes.map Vote.approver = approvers.dedup := by
    simp [votes, Function.comp_def]
  have hall : ∀ v ∈ votes, v.decision = .approve := by
    intro v hv
    obtain ⟨a, -, rfl⟩ := List.mem_map.mp hv
    rfl
  have hawaits : r.Awaits votes := by
    refine hopen.awaits (hnames ▸ List.nodup_dedup approvers) fun v hv => ?_
    have hmem : v.approver ∈ votes.map Vote.approver := List.mem_map_of_mem hv
    rw [hnames] at hmem
    exact List.mem_dedup.mp hmem
  have hlength : votes.length = approvers.toFinset.card := by
    rw [List.length_map, List.card_toFinset]
  refine ⟨votes, ?_⟩
  rw [hopen.status_castAll_of_approve hawaits hall, hlength, if_pos h]

/-- If nobody is against a change, or too few are for it, the order of the votes does not matter. A
request can be approved exactly if as many people as are required may vote. -/
theorem status_castAll_of_perm (hopen : Opens approvers r) :
    (∀ votes order : List Vote, (votes.map Vote.approver).Nodup →
      (∀ v ∈ votes, v.approver ∈ approvers) → order.Perm votes →
      ((∀ v ∈ votes, v.decision ≠ .reject) →
        (r.castAll order).status = if r.required ≤ votes.length then .approved else .pending) ∧
      ((∃ v ∈ votes, v.decision = .reject) →
        votes.countP (·.decision = .approve) < r.required →
        (r.castAll order).status = .rejected)) ∧
    ((∃ votes, (r.castAll votes).status = .approved) ↔ r.required ≤ approvers.toFinset.card) := by
  refine ⟨?_, fun ⟨_, h⟩ => hopen.required_le_of_approved h, hopen.exists_approved⟩
  intro votes order hdistinct hauthorized hperm
  have hawaits : r.Awaits order := (hopen.awaits hdistinct hauthorized).of_perm hperm
  constructor
  · intro hnone
    have hall : ∀ v ∈ order, v.decision = .approve := by
      intro v hv
      cases hd : v.decision with
      | approve => rfl
      | reject => exact absurd hd (hnone v (hperm.mem_iff.mp hv))
    rw [hopen.status_castAll_of_approve hawaits hall, hperm.length_eq]
  · rintro ⟨v, hv, hd⟩ hfew
    rw [← hperm.countP_eq] at hfew
    exact hopen.status_castAll_of_reject hawaits ⟨v, hperm.mem_iff.mpr hv, hd⟩ hfew

/-- Three people, one of them listed twice, can give three approvals but not four. -/
theorem status_castAll_of_three_people :
    let people := ["bob", "alice", "carol", "bob"]
    let opened := new "chg-42" "production"
    let alice : Vote := ⟨"alice", .approve, none⟩
    let bob : Vote := ⟨"bob", .approve, some "lgtm"⟩
    let carol : Vote := ⟨"carol", .reject, none⟩
    let r := opened 2 people
    Opens people r ∧
      (r.castAll [bob, alice]).status = .approved ∧
      (r.castAll [carol, alice]).status = .rejected ∧
      (∃ votes, ((opened 3 people).castAll votes).status = .approved) ∧
      ¬ ∃ votes, ((opened 4 people).castAll votes).status = .approved := by
  intro people opened alice bob carol r
  have hopen (required : Nat) : Opens people (opened required people) := .new _ _ required
  have hcard : people.toFinset.card = 3 := by decide
  obtain ⟨horder, -⟩ := status_castAll_of_perm (hopen 2)
  obtain ⟨-, hthree⟩ := status_castAll_of_perm (hopen 3)
  obtain ⟨-, hfour⟩ := status_castAll_of_perm (hopen 4)
  obtain ⟨hfor, -⟩ :=
    horder [alice, bob] [bob, alice] (by decide) (by decide) (.swap alice bob [])
  obtain ⟨-, hagainst⟩ :=
    horder [alice, carol] [carol, alice] (by decide) (by decide) (.swap alice carol [])
  refine ⟨hopen 2, hfor (by decide), hagainst ⟨carol, by simp, rfl⟩ (by decide), hthree.mpr ?_,
    fun h => ?_⟩
  · exact hcard.symm.le
  · have hle : 4 ≤ people.toFinset.card := hfour.mp h
    omega

/-- With enough votes for a change, one against it counts only in front of the last of them. -/
example :
    let r := new "chg-42" "production" 2 ["alice", "bob", "carol"]
    let vote (approver : String) (d : Decision) : Vote := ⟨approver, d, none⟩
    (r.castAll [vote "alice" .approve, vote "bob" .approve, vote "carol" .reject]).status =
        .approved ∧
      (r.castAll [vote "alice" .approve, vote "carol" .reject, vote "bob" .approve]).status =
        .rejected := by
  decide

end Guardrail.ApprovalRequest
