import Guardrail.Engine.Remote
import Guardrail.Proofs.Record.Segments
import Guardrail.Proofs.Text.Lines

/-!
# Paths of policies

A path names the segments of a package and a head. How many slashes stand around it, between its
segments, or where it is joined to the base URL, says nothing.
-/

namespace Guardrail.Engine

/-! ## Slashes -/

/-- So many slashes. -/
def slashes (n : Nat) : String :=
  String.ofList (List.replicate n '/')

@[simp] theorem toList_slashes (n : Nat) : (slashes n).toList = List.replicate n '/' := by
  simp [slashes]

theorem isSlash_of_mem_replicate {n : Nat} : ∀ c ∈ List.replicate n '/', decide (c = '/') = true :=
  fun _ hc => decide_eq_true (List.eq_of_mem_replicate hc)

theorem trimSlashes_slashes_append (n : Nat) (cs : List Char) :
    Topic.trimSlashes (List.replicate n '/' ++ cs) = Topic.trimSlashes cs := by
  rw [Topic.trimSlashes, List.dropWhile_append_of_pos isSlash_of_mem_replicate, Topic.trimSlashes]

theorem trimSlashes_append_slashes (cs : List Char) (n : Nat) :
    Topic.trimSlashes (cs ++ List.replicate n '/') = Topic.trimSlashes cs :=
  Text.dropEndWhile_dropWhile_append_of_forall cs isSlash_of_mem_replicate

/-! ## Segments -/

/-- A segment of a path: not empty, and without a slash or a dot. -/
structure IsPathSegment (s : String) : Prop where
  ne_empty : s ≠ ""
  no_slash : '/' ∉ s.toList
  no_dot : '.' ∉ s.toList

/-- Segments one behind the other, with one slash or several between them. -/
inductive IsJoined : List String → String → Prop where
  | last (s : String) : IsJoined [s] s
  | cons (s : String) (n : Nat) {rest : List String} {path : String} (h : IsJoined rest path) :
      IsJoined (s :: rest) (s ++ slashes (n + 1) ++ path)

/-- The pieces of a path between its slashes. -/
def pieces (cs : List Char) : List (List Char) :=
  (Text.splitWhere (· = '/') cs).filter (!·.isEmpty)

namespace IsPathSegment

variable {s : String}

theorem isSlash_eq_false (h : IsPathSegment s) : ∀ c ∈ s.toList, decide (c = '/') = false := by
  intro c hc
  rw [decide_eq_false_iff_not]
  rintro rfl
  exact h.no_slash hc

theorem toList_ne_nil (h : IsPathSegment s) : s.toList ≠ [] := by
  simpa using h.ne_empty

theorem isEmpty_toList (h : IsPathSegment s) : s.toList.isEmpty = false := by
  simpa using h.ne_empty

end IsPathSegment

theorem pieces_slashes_append (n : Nat) (cs : List Char) :
    pieces (List.replicate n '/' ++ cs) = pieces cs := by
  induction n with
  | zero => rfl
  | succ n ih =>
      rw [List.replicate_succ, List.cons_append, pieces, Text.splitWhere, if_pos (by decide),
        List.filter_cons_of_neg (by simp)]
      exact ih

theorem isJoined_intercalate {segments : List String} (h : segments ≠ []) :
    IsJoined segments ("/".intercalate segments) := by
  induction segments with
  | nil => contradiction
  | cons s rest ih =>
      cases rest with
      | nil =>
          rw [String.intercalate_singleton]
          exact .last s
      | cons t rest =>
          rw [String.intercalate_cons_cons]
          exact .cons s 0 (ih (List.cons_ne_nil t rest))

namespace IsJoined

variable {segments : List String} {path : String}

theorem pieces_toList (h : IsJoined segments path) (hsegments : ∀ s ∈ segments, IsPathSegment s) :
    pieces path.toList = segments.map String.toList := by
  induction h with
  | last s =>
      have hs := hsegments s List.mem_cons_self
      rw [pieces, Text.splitWhere_of_forall_not hs.isSlash_eq_false,
        List.filter_cons_of_pos (by simp [hs.isEmpty_toList])]
      rfl
  | @cons s n rest path _ ih =>
      have hs := hsegments s List.mem_cons_self
      have hrest := ih fun t ht => hsegments t (List.mem_cons_of_mem s ht)
      rw [String.toList_append, String.toList_append, toList_slashes, List.append_assoc,
        List.replicate_succ, List.cons_append, pieces,
        Text.splitWhere_append hs.isSlash_eq_false (by decide),
        List.filter_cons_of_pos (by simp [hs.isEmpty_toList])]
      rw [List.map_cons, ← hrest, ← pieces_slashes_append n path.toList, pieces]

/-- No slash is taken off the end. -/
theorem dropEndWhile_toList (h : IsJoined segments path)
    (hsegments : ∀ s ∈ segments, IsPathSegment s) :
    path.toList ≠ [] ∧ Text.dropEndWhile (· = '/') path.toList = path.toList := by
  induction h with
  | last s =>
      have hs := hsegments s List.mem_cons_self
      exact ⟨hs.toList_ne_nil, Text.dropEndWhile_of_forall_not hs.isSlash_eq_false⟩
  | @cons s n rest path _ ih =>
      obtain ⟨hne, hend⟩ := ih fun t ht => hsegments t (List.mem_cons_of_mem s ht)
      rw [String.toList_append]
      exact ⟨List.append_ne_nil_of_right_ne_nil _ hne,
        Text.dropEndWhile_append_of_eq_self _ hne hend⟩

end IsJoined

/-! ## Topics -/

/-- Only what stands between the slashes at its ends counts. -/
theorem Topic.ofPath_congr {path path' : String}
    (h : trimSlashes path.toList = trimSlashes path'.toList) : ofPath path = ofPath path' := by
  rw [ofPath, h, ofPath]

theorem Topic.ofPath_slashes_append (n : Nat) (path : String) :
    ofPath (slashes n ++ path) = ofPath path := by
  apply ofPath_congr
  rw [String.toList_append, toList_slashes, trimSlashes_slashes_append]

theorem Topic.ofPath_append_slashes (path : String) (n : Nat) :
    ofPath (path ++ slashes n) = ofPath path := by
  apply ofPath_congr
  rw [String.toList_append, toList_slashes, trimSlashes_append_slashes]

theorem Topic.ofPath_of_pieces {path : String} {rest : List Char} {front : List String}
    {head : String} (hpath : trimSlashes path.toList = root ++ rest)
    (hrest : pieces rest = (front ++ [head]).map String.toList) :
    ofPath path = ⟨".".intercalate front, head⟩ := by
  have hafter : Text.after? root (root ++ rest) = some rest := Text.after?_eq_some_iff.mpr rfl
  have hnames : (pieces rest).map String.ofList = front ++ [head] := by
    rw [hrest, List.map_map]
    exact List.map_id'' (fun s => String.ofList_toList) _
  rw [pieces] at hnames
  simp only [ofPath, hpath, hafter, Option.getD_some, hnames, List.dropLast_concat,
    List.getLast?_concat]

theorem Topic.ofPath_of_isJoined {front : List String} {head path : String}
    (h : IsJoined (front ++ [head]) path) (hsegments : ∀ s ∈ front ++ [head], IsPathSegment s) :
    ofPath ("v1/data/" ++ path) = ⟨".".intercalate front, head⟩ := by
  obtain ⟨hne, hend⟩ := h.dropEndWhile_toList hsegments
  have htrim : trimSlashes ("v1/data/" ++ path).toList = root ++ path.toList := by
    rw [String.toList_append, trimSlashes]
    exact Text.dropEndWhile_append_of_eq_self root hne hend
  exact ofPath_of_pieces htrim (h.pieces_toList hsegments)

theorem intercalate_dot_ne_empty {segments : List String} (hne : segments ≠ [])
    (h : ∀ s ∈ segments, IsPathSegment s) : ".".intercalate segments ≠ "" := by
  cases segments with
  | nil => contradiction
  | cons s rest =>
      cases rest with
      | nil =>
          rw [String.intercalate_singleton]
          exact (h s List.mem_cons_self).ne_empty
      | cons t rest => simp [String.intercalate_cons_cons]

/-- The name of a package can be taken apart in one way only. -/
theorem eq_of_intercalate_dot_eq {front front' : List String}
    (h : ∀ s ∈ front, IsPathSegment s) (h' : ∀ s ∈ front', IsPathSegment s)
    (heq : ".".intercalate front = ".".intercalate front') : front = front' := by
  by_cases hne : front = [] <;> by_cases hne' : front' = []
  · rw [hne, hne']
  · rw [hne, String.intercalate_nil] at heq
    exact absurd heq.symm (intercalate_dot_ne_empty hne' h')
  · rw [hne', String.intercalate_nil] at heq
    exact absurd heq (intercalate_dot_ne_empty hne h)
  · have hsegments := congrArg (fun name : String => Json.segments name.toList) heq
    simp only [Json.segments_intercalate hne fun s hs => (h s hs).no_dot,
      Json.segments_intercalate hne' fun s hs => (h' s hs).no_dot] at hsegments
    exact hsegments

/-! ## Endpoints -/

theorem RemoteConfig.url_of_slashes {c : RemoteConfig} {base path : String}
    (hbase : base.toList.getLast? ≠ some '/') (hpath : path.toList.head? ≠ some '/') {m n : Nat}
    (hc : c.baseUrl = base ++ slashes m) : c.url (slashes n ++ path) = base ++ "/" ++ path := by
  have hend : Text.dropEndWhile (· = '/') base.toList = base.toList :=
    Text.dropEndWhile_of_getLast? fun d hd => decide_eq_false fun he => hbase (he ▸ hd)
  have hstart : ∀ d ∈ path.toList.head?, decide (d = '/') = false :=
    fun d hd => decide_eq_false fun he => hpath (he ▸ hd)
  rw [url, hc, String.toList_append, toList_slashes,
    Text.dropEndWhile_append_of_forall _ isSlash_of_mem_replicate, hend, String.toList_append,
    toList_slashes, Text.dropWhile_append_of_head? isSlash_of_mem_replicate hstart]
  apply String.toList_injective
  simp

/-- A verdict hangs on the endpoint, the topic and the fail mode of an engine. -/
theorem Remote.ask_congr {e e' : Remote} (hendpoint : e.endpoint = e'.endpoint)
    (htopic : e.topic = e'.topic) (hmode : e.config.failMode = e'.config.failMode)
    (post : String → Json → Exchange) (r : Request) : e.ask post r = e'.ask post r := by
  have hanswer : e.answer = e'.answer := by
    funext status document?
    simp only [answer, hendpoint, htopic]
  have hviolations : e.violations = e'.violations := by
    funext x
    cases x <;> simp only [violations, hanswer, hendpoint]
  have hfailure : e.onFailure = e'.onFailure := by
    funext failure
    rw [onFailure, onFailure, hmode]
  rw [ask, ask, evaluate, evaluate, hendpoint, hviolations, hfailure]

/-- Slashes around a path, between its segments and behind the base URL say nothing: the segments
alone give the package and the head, and no others give the same; and the service is asked at the
same place, with the same verdict in the end. -/
theorem ofPath_and_ask_of_slashes :
    (∀ front head, (∀ s ∈ front ++ [head], IsPathSegment s) →
      IsJoined (front ++ [head]) ("/".intercalate (front ++ [head])) ∧
      (∀ path before behind, IsJoined (front ++ [head]) path →
        Topic.ofPath (slashes before ++ "v1/data/" ++ path ++ slashes behind) =
          ⟨".".intercalate front, head⟩) ∧
      ∀ front', (∀ s ∈ front', IsPathSegment s) →
        ".".intercalate front' = ".".intercalate front → front' = front) ∧
    ∀ (c : RemoteConfig) (base path : String), base.toList.getLast? ≠ some '/' →
      path.toList.head? ≠ some '/' → ∀ behind before,
        let plain := Remote.new { c with baseUrl := base, policyPath := path }
        let slashed := Remote.new
          { c with baseUrl := base ++ slashes behind, policyPath := slashes before ++ path }
        slashed.endpoint = base ++ "/" ++ path ∧ slashed.topic = plain.topic ∧
          ∀ post r, slashed.ask post r = plain.ask post r := by
  refine ⟨fun front head hsegments => ⟨?_, fun path before behind h => ?_, fun front' h' => ?_⟩,
    ?_⟩
  · exact isJoined_intercalate (List.append_ne_nil_of_right_ne_nil _ (by simp))
  · rw [Topic.ofPath_append_slashes, String.append_assoc, Topic.ofPath_slashes_append,
      Topic.ofPath_of_isJoined h hsegments]
  · exact eq_of_intercalate_dot_eq h' fun s hs => hsegments s (List.mem_append_left _ hs)
  · intro c base path hbase hpath behind before plain slashed
    have hplain : plain.endpoint = base ++ "/" ++ path :=
      RemoteConfig.url_of_slashes (m := 0) (n := 0) hbase hpath (by simp [slashes])
    have hslashed : slashed.endpoint = base ++ "/" ++ path :=
      RemoteConfig.url_of_slashes hbase hpath rfl
    have htopic : slashed.topic = plain.topic := Topic.ofPath_slashes_append before path
    exact ⟨hslashed, htopic, Remote.ask_congr (hslashed.trans hplain.symm) htopic rfl⟩

/-- A path with slashes at both ends and two between segments, below a base URL with three. -/
theorem ofPath_and_ask_of_doubled_slashes :
    let path := "infra//cost/deny"
    let c := RemoteConfig.new ""
    let plain := Remote.new
      { c with baseUrl := "http://opa:8181", policyPath := "v1/data/" ++ path }
    let slashed := Remote.new
      { c with
        baseUrl := "http://opa:8181" ++ slashes 3
        policyPath := slashes 1 ++ ("v1/data/" ++ path) }
    (∀ s ∈ ["infra", "cost"] ++ ["deny"], IsPathSegment s) ∧
      IsJoined (["infra", "cost"] ++ ["deny"]) path ∧
      Topic.ofPath (slashes 1 ++ "v1/data/" ++ path ++ slashes 2) = ⟨"infra.cost", "deny"⟩ ∧
      slashed.endpoint = "http://opa:8181/v1/data/infra//cost/deny" ∧
      slashed.topic = plain.topic := by
  intro path c plain slashed
  obtain ⟨hpaths, hengines⟩ := ofPath_and_ask_of_slashes
  have hsegments : ∀ s ∈ ["infra", "cost"] ++ ["deny"], IsPathSegment s := by
    intro s hs
    simp only [List.cons_append, List.nil_append, List.mem_cons, List.not_mem_nil, or_false] at hs
    rcases hs with rfl | rfl | rfl <;> exact ⟨by decide, by decide, by decide⟩
  have hjoined : IsJoined (["infra", "cost"] ++ ["deny"]) path :=
    .cons "infra" 1 (.cons "cost" 0 (.last "deny"))
  obtain ⟨-, htopic, -⟩ := hpaths ["infra", "cost"] "deny" hsegments
  obtain ⟨hendpoint, hslashed, -⟩ :=
    hengines c "http://opa:8181" ("v1/data/" ++ path) (by decide) (by decide) 3 1
  exact ⟨hsegments, hjoined, htopic path 1 2 hjoined, hendpoint, hslashed⟩

end Guardrail.Engine
