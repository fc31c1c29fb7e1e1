import Guardrail.Proofs.Compliance.StorageOrder
import Guardrail.Proofs.Text.Spelling

/-!
# Kinds of relationships

A kind of relationship may be spelled with blanks around it, with large or small letters, and with
underscores for dashes. A resource has a relationship of a kind if an edge of that kind stands at
it, at whichever end.
-/

namespace Guardrail.Compliance

open Text (Respelling normal respelling_iff apply_toLower)

/-! ## Spellings of one kind -/

/-- Two names of one kind: each comes from the other by blanks at the ends, by letters that are
written large or small, and by underscores that are written as dashes. -/
inductive SameKind : String → String → Prop where
  | spelling {s t : String} (h : Respelling s t) : SameKind s t
  | dash (front back : List Char) :
      SameKind (String.ofList (front ++ '_' :: back)) (String.ofList (front ++ '-' :: back))
  | symm {s t : String} (h : SameKind s t) : SameKind t s
  | trans {s t u : String} (h : SameKind s t) (h' : SameKind t u) : SameKind s u

/-- A dash for an underscore, and any other character as it is. -/
def dashChar (c : Char) : Char :=
  if c = '_' then '-' else c

/-- The name with a dash for each underscore. -/
def dashed (s : String) : String :=
  String.ofList (s.toList.map dashChar)

theorem isBlank_dashChar (c : Char) : Text.isBlank (dashChar c) = Text.isBlank c := by
  by_cases hc : c = '_'
  · subst hc
    decide
  · rw [dashChar, if_neg hc]

theorem toLower_dashChar (c : Char) :
    (dashChar c).toLower = if c = '_' then '-' else c.toLower := by
  unfold dashChar
  split
  · decide
  · rfl

theorem dashChar_toLower (c : Char) :
    dashChar c.toLower = if c = '_' then '-' else c.toLower := by
  have hletter : ∀ d : Char, d.isAlpha = true → (d == '_') = false := by
    intro d hd
    rw [beq_eq_false_iff_ne]
    rintro rfl
    exact absurd hd (by decide)
  have hc : c.toLower = '_' ↔ c = '_' := by
    simpa only [beq_eq_beq] using apply_toLower hletter c
  simp only [dashChar, hc]

theorem normalKind_eq_dashed_normal (kind : String) : normalKind kind = dashed (normal kind) := by
  simp only [normalKind, normal, Text.lower, Text.strip, dashed, String.toList_ofList,
    List.map_map, Function.comp_def, dashChar_toLower]

theorem normalKind_eq_normal_dashed (kind : String) : normalKind kind = normal (dashed kind) := by
  have hlower : Char.toLower ∘ dashChar = fun c => if c = '_' then '-' else c.toLower :=
    funext toLower_dashChar
  simp only [normalKind, normal, Text.lower, Text.strip, dashed, String.toList_ofList,
    Text.trim_map isBlank_dashChar, List.map_map, hlower]

theorem dashed_dash (front back : List Char) :
    dashed (String.ofList (front ++ '_' :: back)) =
      dashed (String.ofList (front ++ '-' :: back)) := by
  simp [dashed, dashChar]

/-- Underscores are written as dashes one after the other. -/
theorem sameKind_dashes (front back : List Char) :
    SameKind (String.ofList (front ++ back)) (String.ofList (front ++ back.map dashChar)) := by
  induction back generalizing front with
  | nil => exact .spelling (respelling_iff.mpr rfl)
  | cons c back ih =>
      have hback := ih (front ++ [dashChar c])
      rw [List.append_assoc, List.append_assoc] at hback
      by_cases hc : c = '_'
      · subst hc
        exact .trans (.dash front back) hback
      · rw [dashChar, if_neg hc] at hback
        rwa [List.map_cons, dashChar, if_neg hc]

theorem sameKind_dashed (s : String) : SameKind s (dashed s) := by
  have h := sameKind_dashes [] s.toList
  rwa [List.nil_append, String.ofList_toList] at h

/-- Two names are names of one kind exactly if they have the same normal spelling. -/
theorem sameKind_iff {s t : String} : SameKind s t ↔ normalKind s = normalKind t := by
  constructor
  · intro h
    induction h with
    | spelling h =>
        rw [normalKind_eq_dashed_normal, respelling_iff.mp h, normalKind_eq_dashed_normal]
    | dash front back =>
        rw [normalKind_eq_normal_dashed, dashed_dash, normalKind_eq_normal_dashed]
    | symm _ ih => exact ih.symm
    | trans _ _ ih ih' => exact ih.trans ih'
  · intro h
    rw [normalKind_eq_normal_dashed, normalKind_eq_normal_dashed, ← respelling_iff] at h
    exact .trans (sameKind_dashed s) (.trans (.spelling h) (.symm (sameKind_dashed t)))

/-! ## Relationships of a resource -/

variable {g : Graph} {r : Resource}

theorem hasEdge_within_iff {kind : String} :
    (Context.within g r).hasEdge kind = true ↔
      ∃ e ∈ g.edges, (e.source = r.id ∨ e.target = r.id) ∧ SameKind e.relationship kind := by
  simp only [Context.hasEdge_iff, Context.within, Graph.edgesOf, List.mem_filter, Edge.touches,
    Bool.or_eq_true, decide_eq_true_eq, sameKind_iff, and_assoc]

/-- A relationship of a kind that a safeguard looks for is enough, unless the safeguard is ruled
out. -/
theorem Safeguard.holds_of_hasEdge {s : Safeguard} {ctx : Context} {kind : String}
    (hkind : kind ∈ s.signals.edges) (hfree : ctx.flag s.signals.exclusions = false)
    (h : ctx.hasEdge kind = true) : s.holds ctx = true := by
  have hedges : s.signals.edges.any ctx.hasEdge = true := List.any_eq_true.mpr ⟨kind, hkind, h⟩
  simp only [holds, Context.gives, hfree, hedges, Bool.not_false, Bool.or_true, Bool.true_or,
    Bool.true_and]

/-- The control judges by a safeguard and nothing else. -/
def Control.AsksFor (c : Control) (s : Safeguard) : Prop :=
  ∀ ctx, c.judge ctx = .ok (s.judge ctx)

theorem examine_pass_of_holds {c : Control} {s : Safeguard} (hc : c.AsksFor s)
    (h : s.holds (Context.within g r) = true) : (examine g.source c r).status = .pass := by
  rw [examine_source, hc]
  simp only [Finding.new, Safeguard.judge, h, Status.ofCheck, if_true]

/-- A resource has the relationships of the edges at either end of which it stands. A control that
looks for a kind of them passes the resource for an edge that another one has to it. -/
theorem build_credits_either_end (g : Graph) (r : Resource) :
    ∃ ctx, Context.build g.source r = .ok ctx ∧
      (∀ kind, ctx.hasEdge kind = true ↔
        ∃ e ∈ g.edges, (e.source = r.id ∨ e.target = r.id) ∧ SameKind e.relationship kind) ∧
      ∀ (c : Control) (s : Safeguard) (kind : String) (e : Edge), c.AsksFor s →
        kind ∈ s.signals.edges → ctx.flag s.signals.exclusions = false →
        e ∈ g.edges → e.target = r.id → SameKind e.relationship kind →
        (examine g.source c r).status = .pass := by
  refine ⟨Context.within g r, build_source g r, fun kind => hasEdge_within_iff, ?_⟩
  intro c s kind e hc hkind hfree he htarget hsame
  have hedge : (Context.within g r).hasEdge kind = true :=
    hasEdge_within_iff.mpr ⟨e, he, .inr htarget, hsame⟩
  exact examine_pass_of_holds hc (Safeguard.holds_of_hasEdge hkind hfree hedge)

/-- A control for logs, and an edge from another resource that has the kind in another spelling. -/
theorem pass_by_edge_of_other_spelling :
    let bucket := Resource.new "logs" "s3_bucket" "aws"
    let e : Edge := ⟨"app", "logs", " Logs_To"⟩
    let g : Graph := { resources := [bucket], edges := [e] }
    ∃ c ∈ Catalog.standard .cis, c.AsksFor .logging ∧ e ∈ g.edges ∧ e.target = bucket.id ∧
      SameKind e.relationship "logs-to" ∧ (examine g.source c bucket).status = .pass := by
  intro bucket e g
  have hlength : 4 < (Catalog.standard .cis).length := by decide
  let c := (Catalog.standard .cis).get ⟨4, hlength⟩
  have hc : c.AsksFor .logging := fun _ => rfl
  have he : e ∈ g.edges := List.mem_singleton.mpr rfl
  have hsame : SameKind e.relationship "logs-to" := sameKind_iff.mpr (by decide)
  obtain ⟨ctx, -, -, hpass⟩ := build_credits_either_end g bucket
  exact ⟨c, List.get_mem _ _, hc, he, rfl, hsame,
    hpass c .logging "logs-to" e hc List.mem_cons_self rfl he rfl hsame⟩

/-- A bucket that sends no logs and has no key passes for the logs that an application sends to it
and for a disk that is encrypted by it; without these edges it fails. -/
theorem pass_by_edges_of_others :
    let bucket := Resource.new "logs" "s3_bucket" "aws"
    let g : Graph :=
      { resources := [.new "app" "ec2_instance" "aws", bucket, .new "disk" "ebs_volume" "aws"]
        edges := [⟨"app", "logs", "logs-to"⟩, ⟨"disk", "logs", "encrypted-by"⟩] }
    let status (g : Graph) (id : String) : Option Status :=
      ((Catalog.standard .cis).find? (·.id = id)).map fun c => (examine g.source c bucket).status
    bucket ∈ g.resources ∧ ∃ ctx, Context.build g.source bucket = .ok ctx ∧
      (∀ kind ∈ ["logs-to", "encrypted-by"], ctx.hasEdge kind = true ∧
        ¬∃ e ∈ g.edges, e.source = bucket.id ∧ SameKind e.relationship kind) ∧
      ∀ id ∈ ["CIS-3.1", "CIS-2.1.1"],
        status g id = some .pass ∧ status { g with edges := [] } id = some .fail := by
  intro bucket g status
  have hsource : ∀ e ∈ g.edges, e.source ≠ bucket.id := by decide
  have hbucket : bucket ∈ g.resources := List.mem_cons_of_mem _ List.mem_cons_self
  refine ⟨hbucket, Context.within g bucket, build_source g bucket, fun kind hkind => ⟨?_, ?_⟩, ?_⟩
  · revert kind
    decide +kernel
  · rintro ⟨e, he, hlogs, -⟩
    exact hsource e he hlogs
  · decide +kernel

end Guardrail.Compliance
