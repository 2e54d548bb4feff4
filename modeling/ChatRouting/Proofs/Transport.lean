import ChatRouting.Transport

/-!
# The requests that were made

Requests are numbered in the order in which they were made, and nothing that was asked is taken
back. A transport *extends* another when it has all its requests under the same numbers, and every
outcome that was known there. The outcome of a request is written once, so whatever happens to a
transport extends it.

## Main definitions

* `Transport.requests`
* `Transport.Extends`
* `Transport.IsLoopback`

## Main results

* `Transport.extends_issue`, `Transport.extends_modify`, `Transport.extends_detach`
* `Transport.Extends.hasFailed`: a request that has failed stays failed
-/

namespace ChatRouting

namespace Receipt

variable {r : Receipt} {o : Outcome}

theorem isAwaited_iff : r.isAwaited = true ↔ r.reply = .awaited := by
  rw [isAwaited]
  cases r.reply <;> simp

/-- An outcome that is known while the reply is awaited was written down. -/
theorem observed_of_outcome? (ha : r.isAwaited = true) (ho : r.outcome? = some o) :
    r.observed = some o := by
  rw [outcome?, isAwaited_iff.mp ha] at ho
  cases hobs : r.observed with
  | some o' =>
    rw [hobs] at ho
    exact ho
  | none =>
    rw [hobs] at ho
    cases ho

theorem outcome?_of_observed (ho : r.observed = some o) : r.outcome? = some o := by
  rw [outcome?, ho]

/-- An answer does not change an outcome. -/
theorem outcome?_answer (ho : r.outcome? = some o) (o' : Outcome) :
    (r.answer o').outcome? = some o := by
  rw [answer]
  split
  · next ha =>
    have hobs : r.observed = some o := observed_of_outcome? ha ho
    exact outcome?_of_observed (r := { r with reply := .given o' }) hobs
  · exact ho

/-- An acknowledger that goes away does not change an outcome. -/
theorem outcome?_abandon (ho : r.outcome? = some o) : r.abandon.outcome? = some o := by
  rw [abandon]
  split
  · next ha =>
    have hobs : r.observed = some o := observed_of_outcome? ha ho
    exact outcome?_of_observed (r := { r with reply := .abandoned }) hobs
  · exact ho

theorem hasFailed_iff : r.hasFailed = true ↔ ∃ f, r.outcome? = some (.error f) := by
  rw [hasFailed]
  cases r.outcome? with
  | none => simp
  | some o =>
    cases o with
    | ok _ => simp
    | error f => simp

end Receipt

namespace Transport

/-- The requests that were made, in order. -/
def requests (t : Transport) : List Request :=
  t.issued.map (·.request)

theorem request?_eq (t : Transport) (n : Nat) : t.request? n = t.requests[n]? := by
  rw [request?, requests, List.getElem?_map]

theorem lt_of_request? {t : Transport} {n : Nat} {r : Request} (h : t.request? n = some r) :
    n < t.requests.length := by
  rw [request?_eq] at h
  exact (List.getElem?_eq_some_iff.mp h).1

/-- One more request is made, and the others keep their numbers. -/
theorem request?_of_requests_eq {t t' : Transport} {r r' : Request} {n : Nat}
    (h : t'.requests = t.requests ++ [r]) :
    t'.request? n = some r' ↔ t.request? n = some r' ∨ n = t.requests.length ∧ r' = r := by
  rw [request?_eq, request?_eq, h]
  rcases Nat.lt_trichotomy n t.requests.length with hlt | rfl | hgt
  · rw [List.getElem?_append_left hlt]
    exact ⟨Or.inl, fun hr => hr.resolve_right fun hn => Nat.ne_of_lt hlt hn.1⟩
  · simp [eq_comm]
  · have hend : (t.requests ++ [r]).length ≤ n := by
      rw [List.length_append]
      exact hgt
    rw [List.getElem?_eq_none hend, List.getElem?_eq_none (Nat.le_of_lt hgt)]
    simp [Nat.ne_of_gt hgt]

/-- All requests are there under the same numbers, and all outcomes that were known. -/
structure Extends (t t' : Transport) : Prop where
  requests : t.requests <+: t'.requests
  outcome : ∀ n o, t.outcome? n = some o → t'.outcome? n = some o

variable {t t' t'' : Transport}

theorem Extends.refl (t : Transport) : t.Extends t :=
  ⟨List.prefix_rfl, fun _ _ ho => ho⟩

theorem Extends.trans (h : t.Extends t') (h' : t'.Extends t'') : t.Extends t'' :=
  ⟨h.requests.trans h'.requests, fun n o ho => h'.outcome n o (h.outcome n o ho)⟩

theorem Extends.request? (h : t.Extends t') {n : Nat} {r : Request}
    (hr : t.request? n = some r) : t'.request? n = some r := by
  rw [request?_eq] at hr ⊢
  obtain ⟨rest, hrest⟩ := h.requests
  obtain ⟨hlt, _⟩ := List.getElem?_eq_some_iff.mp hr
  rw [← hrest, List.getElem?_append_left hlt, hr]

theorem hasFailed_iff {n : Nat} : t.hasFailed n = true ↔ ∃ f, t.outcome? n = some (.error f) := by
  rw [hasFailed, outcome?]
  cases t.receipt? n with
  | none => simp
  | some r => exact Receipt.hasFailed_iff

/-- A request that has failed stays failed. -/
theorem Extends.hasFailed (h : t.Extends t') {n : Nat} (hn : t.hasFailed n = true) :
    t'.hasFailed n = true := by
  obtain ⟨f, hf⟩ := hasFailed_iff.mp hn
  exact hasFailed_iff.mpr ⟨f, h.outcome n _ hf⟩

/-- A request that has not failed had not failed before. -/
theorem Extends.hasFailed_eq_false (h : t.Extends t') {n : Nat} (hn : t'.hasFailed n = false) :
    t.hasFailed n = false := by
  rw [← Bool.not_eq_true] at hn ⊢
  exact mt h.hasFailed hn

theorem requests_issue (t : Transport) (r : Request) :
    (t.issue r).2.requests = t.requests ++ [r] := by
  rw [requests, issue, requests, List.map_append]
  rfl

/-- A request is numbered by how many were made before it. -/
theorem number_issue (t : Transport) (r : Request) : (t.issue r).1 = t.requests.length := by
  rw [requests, List.length_map]
  rfl

theorem request?_issue (t : Transport) (r : Request) :
    (t.issue r).2.request? (t.issue r).1 = some r := by
  rw [request?_eq, requests_issue, number_issue, List.getElem?_concat_length]

/-- Another request is made. -/
theorem extends_issue (t : Transport) (r : Request) : t.Extends (t.issue r).2 where
  requests := by
    rw [requests_issue]
    exact List.prefix_append _ _
  outcome n o ho := by
    obtain ⟨receipt, hreceipt, ho⟩ := Option.bind_eq_some_iff.mp ho
    obtain ⟨i, hi, rfl⟩ := Option.map_eq_some_iff.mp hreceipt
    obtain ⟨hlt, _⟩ := List.getElem?_eq_some_iff.mp hi
    have hi' : (t.issue r).2.issued[n]? = some i := by
      rw [issue, List.getElem?_append_left hlt, hi]
    rw [outcome?, receipt?, hi']
    exact ho

/-- A receipt changes, and no request does. -/
theorem requests_modify (t : Transport) (n : Nat) (f : Receipt → Receipt) :
    (t.modify n f).requests = t.requests := by
  refine List.ext_getElem? fun m => ?_
  rw [requests, requests, modify, List.getElem?_map, List.getElem?_map, List.getElem?_modify]
  cases t.issued[m]? with
  | none => rfl
  | some i =>
    split
    · rfl
    · rfl

theorem requests_foldl_modify (ns : List Nat) (f : Receipt → Receipt) (t : Transport) :
    (ns.foldl (fun t n => t.modify n f) t).requests = t.requests := by
  induction ns generalizing t with
  | nil => rfl
  | cons n ns ih => exact (ih _).trans (t.requests_modify n f)

theorem requests_detach (t : Transport) : t.detach.requests = t.requests := by
  rw [detach]
  split
  · exact requests_foldl_modify t.outbox Receipt.abandon t
  · rfl

/-- A receipt changes, but not its outcome if it has one. -/
theorem extends_modify (t : Transport) (n : Nat) {f : Receipt → Receipt}
    (hf : ∀ r o, r.outcome? = some o → (f r).outcome? = some o) : t.Extends (t.modify n f) where
  requests := (t.requests_modify n f).symm ▸ List.prefix_rfl
  outcome m o ho := by
    obtain ⟨receipt, hreceipt, ho⟩ := Option.bind_eq_some_iff.mp ho
    obtain ⟨i, hi, rfl⟩ := Option.map_eq_some_iff.mp hreceipt
    rw [outcome?, receipt?, modify, List.getElem?_modify, hi]
    by_cases hnm : n = m
    · simpa [hnm] using hf i.receipt o ho
    · simpa [hnm] using ho

theorem extends_foldl_abandon (ns : List Nat) (t : Transport) :
    t.Extends (ns.foldl (fun t n => t.modify n Receipt.abandon) t) := by
  induction ns generalizing t with
  | nil => exact .refl t
  | cons n ns ih =>
    exact (t.extends_modify n fun _ _ => Receipt.outcome?_abandon).trans (ih _)

/-- The host goes away. -/
theorem extends_detach (t : Transport) : t.Extends t.detach := by
  rw [detach]
  split
  · exact ⟨(extends_foldl_abandon t.outbox t).requests, (extends_foldl_abandon t.outbox t).outcome⟩
  · exact .refl t

/-- The host collects requests. -/
theorem extends_collect (t : Transport) : t.Extends t.collect.2 :=
  ⟨List.prefix_rfl, fun _ _ ho => ho⟩

/-! ### Loopbacks -/

/-- The transport answers at once. -/
def IsLoopback (t : Transport) : Prop :=
  ∃ unreachable, t.link = .loopback unreachable

/-- A loopback has no host that goes away. -/
theorem IsLoopback.detach_eq (h : t.IsLoopback) : t.detach = t := by
  obtain ⟨unreachable, hlink⟩ := h
  rw [detach, hlink]

theorem IsLoopback.setReachable (h : t.IsLoopback) (id : String) (reachable : Bool) :
    (t.setReachable id reachable).IsLoopback := by
  obtain ⟨unreachable, hlink⟩ := h
  rw [Transport.setReachable, hlink]
  exact ⟨_, rfl⟩

theorem outbox_setReachable (t : Transport) (id : String) (reachable : Bool) :
    (t.setReachable id reachable).outbox = t.outbox := by
  rw [setReachable]
  split
  · rfl
  · rfl

/-- A loopback takes every request, which waits to be collected. -/
theorem IsLoopback.outbox_issue (h : t.IsLoopback) (r : Request) :
    (t.issue r).2.outbox = t.outbox ++ [(t.issue r).1] := by
  obtain ⟨unreachable, hlink⟩ := h
  rw [issue, hlink, accepts]
  rfl

end Transport

end ChatRouting
