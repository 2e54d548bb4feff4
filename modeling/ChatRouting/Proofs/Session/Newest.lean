import ChatRouting.Proofs.Session.Run
import Mathlib.Data.List.Perm.Basic

/-!
# The summary of a session is its newest message

What a session remembers of its messages is a *summary*, the text and the time of one of them.
A call changes the summary of an id by a function of that summary alone
(`Registry.summary?_perform`), so that everything about summaries is about folds of these
functions: which message wins, that the time never goes back, and that the order of arrival
does not matter as long as no two messages of a conversation have the same time.

The messages that count are those since the session was created. They are told from the run
itself: a message counts when its call is accepted, and all are forgotten as soon as there is
no session.

## Main definitions

* `Session.summary`, `Registry.summary?`
* `Registry.received`: the messages that a session was given since it was created
* `IsNewest`: a summary is that of the newest message, and of the latest to arrive if several
  are newest

## Main results

* `Registry.summary_newest_of_run`
-/

namespace ChatRouting

/-- The text and the time of a message, or neither. -/
abbrev Summary := Option String × Option Instant

/-- What a session remembers of its messages. -/
def Session.summary (s : Session) : Summary :=
  (s.lastMessage, s.lastTime)

/-- The time of a message, if it can be read. -/
def Message.time? (m : Message) : Option Instant :=
  match Instant.ofText m.timestamp with
  | .ok time => some time
  | .error _ => none

namespace Registry

/-- The summary of the session of an id. -/
def summary? (r : Registry) (id : String) : Option Summary :=
  (r.find? id).map Session.summary

/-- The message that a call hands over. -/
def Operation.message? : Operation → Option Message
  | .apply m | .applyAs m _ => some m
  | .ensure _ _ _ | .remove _ => none

/-- The message for the session of an id that a call hands over, unless the call is refused. -/
def accepted (id : String) (op : Operation) (r : Registry) : List Message :=
  match op.message?, (r.perform op).1 with
  | some m, .session _ => if m.conversation = id then [m] else []
  | _, _ => []

/-- The messages that the session of an id has been given since it was created, going on from
those before some calls. Without a session there are none. -/
def receivedAfter (id : String) : List Operation → Registry → List Message → List Message
  | [], _, ms => ms
  | op :: ops, r, ms =>
    let r' := (r.perform op).2
    receivedAfter id ops r' (if r'.contains id then ms ++ accepted id op r else [])

/-- The messages that the session of an id has been given since it was created, in order of
arrival. -/
def received (id : String) (ops : List Operation) : List Message :=
  receivedAfter id ops {} []

end Registry

/-- The summary is of the newest of some messages, the latest to arrive if several are newest.
Of no messages there is no text and no time. -/
def IsNewest (ms : List Message) (sm : Summary) : Prop :=
  (ms = [] ∧ sm = (none, none)) ∨
  ∃ before m after time, ms = before ++ m :: after ∧ m.time? = some time ∧
    sm = (some m.plaintext, some time) ∧
    (∀ x ∈ before, ∃ t, x.time? = some t ∧ t.millis ≤ time.millis) ∧
    ∀ x ∈ after, ∃ t, x.time? = some t ∧ t.millis < time.millis

/-- The time of the second summary is not before that of the first. -/
def Summary.NotAfter (a b : Summary) : Prop :=
  ∀ t ∈ a.2, ∃ u ∈ b.2, t.millis ≤ u.millis

/-- Two messages of one conversation have different times, if they have times. -/
def Message.TimesDiffer (a b : Message) : Prop :=
  a.conversation = b.conversation →
    ∀ t u, a.time? = some t → b.time? = some u → t.millis ≠ u.millis

/-! ### Summaries and messages -/

namespace Summary

/-- The summary after a message. -/
def next (sm : Summary) (text : String) (time : Instant) : Summary :=
  if ∀ t ∈ sm.2, t.millis ≤ time.millis then (some text, some time) else sm

theorem next_of_le {sm : Summary} {time : Instant} (h : ∀ t ∈ sm.2, t.millis ≤ time.millis)
    (text : String) : sm.next text time = (some text, some time) :=
  if_pos h

theorem next_of_lt {sm : Summary} {time t : Instant} (ht : t ∈ sm.2)
    (h : time.millis < t.millis) (text : String) : sm.next text time = sm :=
  if_neg fun hle => absurd (hle t ht) (by omega)

theorem NotAfter.refl (sm : Summary) : sm.NotAfter sm :=
  fun t ht => ⟨t, ht, Int.le_refl _⟩

theorem NotAfter.trans {a b c : Summary} (hab : a.NotAfter b) (hbc : b.NotAfter c) :
    a.NotAfter c := by
  intro t ht
  obtain ⟨u, hu, htu⟩ := hab t ht
  obtain ⟨v, hv, huv⟩ := hbc u hu
  exact ⟨v, hv, by omega⟩

/-- A message does not set the time back. -/
theorem notAfter_next (sm : Summary) (text : String) (time : Instant) :
    sm.NotAfter (sm.next text time) := by
  rw [next]
  split_ifs with h
  · exact fun t ht => ⟨time, rfl, h t ht⟩
  · exact .refl sm

/-- Two messages of different times may arrive in either order. -/
theorem next_comm (sm : Summary) (a b : String) {t u : Instant} (h : t.millis ≠ u.millis) :
    (sm.next a t).next b u = (sm.next b u).next a t := by
  wlog htu : t.millis < u.millis generalizing a b t u
  · exact (this b a h.symm (by omega)).symm
  by_cases hu : ∀ v ∈ sm.2, v.millis ≤ u.millis
  · -- The second is newer than all, so it wins either way.
    have hb : u ∈ ((some b, some u) : Summary).2 := rfl
    rw [next_of_le hu, next_of_lt hb htu]
    refine next_of_le (fun v hv => ?_) b
    by_cases ht : ∀ v ∈ sm.2, v.millis ≤ t.millis
    · rw [next_of_le ht] at hv
      obtain rfl := Option.mem_some_iff.mp hv
      omega
    · rw [next, if_neg ht] at hv
      exact hu v hv
  · -- What is remembered is newer than both.
    obtain ⟨v, hv, huv⟩ : ∃ v ∈ sm.2, u.millis < v.millis := by
      simpa using hu
    rw [next_of_lt hv (by omega), next_of_lt hv huv, next_of_lt hv (by omega)]

end Summary

theorem Session.summary_receive (s : Session) (text : String) (time : Instant) :
    (s.receive text time).summary = s.summary.next text time := by
  cases h : s.lastTime with
  | none => simp [receive, isNewer, Summary.next, summary, h]
  | some t =>
    simp only [receive, isNewer, Summary.next, summary, h, decide_eq_true_eq, Option.mem_def,
      Option.some.injEq, forall_eq']
    split_ifs
    · rfl
    · rw [h]

theorem isNewest_nil : IsNewest [] (none, none) :=
  Or.inl ⟨rfl, rfl⟩

/-- One more message arrives. -/
theorem IsNewest.append {ms : List Message} {sm : Summary} (h : IsNewest ms sm) {m : Message}
    {time : Instant} (ht : m.time? = some time) :
    IsNewest (ms ++ [m]) (sm.next m.plaintext time) := by
  rcases h with ⟨rfl, rfl⟩ | ⟨before, x, after, t, rfl, hx, rfl, hbefore, hafter⟩
  · refine Or.inr ⟨[], m, [], time, rfl, ht, ?_, by simp, by simp⟩
    exact Summary.next_of_le (by simp) _
  · by_cases hle : t.millis ≤ time.millis
    · refine Or.inr ⟨before ++ x :: after, m, [], time, rfl, ht, ?_, ?_, by simp⟩
      · exact Summary.next_of_le (by simpa using hle) _
      · intro y hy
        rcases List.mem_append.mp hy with hy | hy
        · obtain ⟨u, hu, hut⟩ := hbefore y hy
          exact ⟨u, hu, by omega⟩
        · rcases List.mem_cons.mp hy with rfl | hy
          · exact ⟨t, hx, hle⟩
          · obtain ⟨u, hu, hut⟩ := hafter y hy
            exact ⟨u, hu, by omega⟩
    · refine Or.inr ⟨before, x, after ++ [m], t, by simp, hx, ?_, hbefore, ?_⟩
      · exact Summary.next_of_lt (t := t) rfl (by omega) _
      · intro y hy
        rcases List.mem_append.mp hy with hy | hy
        · exact hafter y hy
        · obtain rfl := List.mem_singleton.mp hy
          exact ⟨time, ht, by omega⟩

namespace Registry

variable {r : Registry} {id : String} {op : Operation}

/-! ### What a call does to a summary -/

/-- The summary of an id after a message has been handed over, if its time can be read. -/
def summarizeMessage (id : String) (m : Message) (sm : Option Summary) : Option Summary :=
  match m.time? with
  | some time =>
    if m.conversation = id then some ((sm.getD (none, none)).next m.plaintext time) else sm
  | none => sm

/-- The summary of an id after a call. -/
def summarize (id : String) (sm : Option Summary) : Operation → Option Summary
  | .ensure other _ _ => if other = id then some (sm.getD (none, none)) else sm
  | .apply m | .applyAs m _ => summarizeMessage id m sm
  | .remove other => if other = id then none else sm

theorem summary?_insert (r : Registry) (s : Session) (id : String) :
    (r.insert s).summary? id = if s.id = id then some s.summary else r.summary? id := by
  rw [summary?, find?_insert]
  by_cases h : s.id = id
  · rw [if_pos h, if_pos h.symm]
    rfl
  · rw [if_neg h, if_neg (Ne.symm h)]
    rfl

theorem summary?_ensure (r : Registry) {other : String} (hother : other ≠ "") (name : String)
    (target : Target) (id : String) :
    (r.ensure other name target).2.summary? id =
      summarize id (r.summary? id) (.ensure other name target) := by
  rw [summarize]
  cases hf : r.find? other with
  | some s =>
    rw [ensure_of_present hother hf]
    split_ifs with h
    · subst h
      simp [summary?, hf]
    · rfl
  | none =>
    rw [ensure_of_absent hother hf, summary?_insert]
    split_ifs with h
    · subst h
      simp [summary?, hf, Session.summary]
    · rfl

theorem summary?_applyAs (h : r.WellKept) {m : Message} (hm : m.conversation ≠ "")
    (target : Target) (id : String) :
    (r.applyAs m target).2.summary? id = summarizeMessage id m (r.summary? id) := by
  rw [summarizeMessage, Message.time?]
  cases ht : Instant.ofText m.timestamp with
  | error f => rw [applyAs_of_unreadable hm ht]
  | ok time =>
    simp only
    cases hf : r.find? m.conversation with
    | some s =>
      have hs : (s.receive m.plaintext time).id = m.conversation := by
        rw [← h.id_of_find? hf, Session.receive]
        split_ifs
        · rfl
        · rfl
      rw [applyAs_of_present hm ht hf, summary?, find?_replace, hs]
      split_ifs with hid hid'
      · subst hid
        simp [hf, summary?, Session.summary_receive]
      · exact absurd hid.symm hid'
      · exact absurd (Eq.symm ‹_›) hid
      · rfl
    | none =>
      rw [applyAs_of_absent hm ht hf, summary?_insert]
      have hs : (firstSession m target time).id = m.conversation := rfl
      rw [hs]
      split_ifs with hid
      · subst hid
        simp [summary?, hf, firstSession, Session.summary, Summary.next]
      · rfl

theorem summary?_remove (r : Registry) {other : String} (hother : other ≠ "") (id : String) :
    (r.remove other).2.summary? id = summarize id (r.summary? id) (.remove other) := by
  rw [remove_of_ne hother, summary?, find?_forget, summarize]
  by_cases h : other = id
  · rw [if_pos h, if_pos h.symm]
    rfl
  · rw [if_neg h, if_neg (Ne.symm h)]
    rfl

/-- A call changes the summary of an id by a function of that summary. -/
theorem summary?_perform (h : r.WellKept) (hid : id ≠ "") (op : Operation) :
    (r.perform op).2.summary? id = summarize id (r.summary? id) op := by
  have hmessage (m : Message) (target : Target) :
      (r.applyAs m target).2.summary? id = summarizeMessage id m (r.summary? id) := by
    by_cases hm : m.conversation = ""
    · rw [applyAs_of_empty hm, summarizeMessage]
      cases m.time? with
      | none => rfl
      | some time => exact (if_neg fun he => hid (he.symm.trans hm)).symm
    · exact summary?_applyAs h hm target id
  cases op with
  | ensure other name target =>
    by_cases hother : other = ""
    · subst hother
      exact (if_neg (Ne.symm hid)).symm
    · exact summary?_ensure r hother name target id
  | apply m => exact hmessage m (targetOf m)
  | applyAs m target => exact hmessage m target
  | remove other =>
    by_cases hother : other = ""
    · subst hother
      exact (if_neg (Ne.symm hid)).symm
    · exact summary?_remove r hother id

/-- The summary of an id after some calls is a fold. -/
theorem summary?_run (h : r.WellKept) (hid : id ≠ "") (ops : List Operation) :
    (run ops r).2.summary? id = ops.foldl (summarize id) (r.summary? id) := by
  induction ops generalizing r with
  | nil => rfl
  | cons op ops ih =>
    rw [List.foldl_cons, ← summary?_perform h hid op]
    exact ih (h.perform op)

/-! ### The newest message -/

/-- The messages that are held to be those of an id's session account for its summary. -/
def Accounts (ms : List Message) : Option Summary → Prop
  | some sm => IsNewest ms sm
  | none => ms = []

theorem contains_eq_isSome_summary? (r : Registry) (id : String) :
    r.contains id = (r.summary? id).isSome := by
  rw [contains_eq_isSome_find?, summary?, Option.isSome_map]

/-- The message, if it is for an id and its time can be read. -/
def readable (id : String) (m : Message) : List Message :=
  if m.conversation ≠ "" ∧ m.conversation = id then m.time?.toList.map fun _ => m else []

/-- A message that is handed over is accepted if it can be read. -/
theorem accepted_message {m : Message} {target : Target}
    (hop : op.message? = some m) (ha : r.perform op = r.perform (.applyAs m target)) :
    accepted id op r = readable id m := by
  rw [accepted, hop, ha, readable]
  simp only [perform]
  by_cases hm : m.conversation = ""
  · rw [applyAs_of_empty hm, if_neg fun hc => hc.1 hm]
    rfl
  · rw [Message.time?]
    cases ht : Instant.ofText m.timestamp with
    | error f =>
      rw [applyAs_of_unreadable hm ht]
      simp [Answer.ofExcept]
    | ok time =>
      cases hf : r.find? m.conversation with
      | some s =>
        rw [applyAs_of_present hm ht hf]
        simp [Answer.ofExcept, hm]
      | none =>
        rw [applyAs_of_absent hm ht hf]
        simp [Answer.ofExcept, hm]

/-- A message that is handed over keeps the account. -/
theorem accounts_message {ms : List Message} {sm : Option Summary} (h : Accounts ms sm)
    (hid : id ≠ "") (m : Message) :
    Accounts (if (summarizeMessage id m sm).isSome then ms ++ readable id m else [])
      (summarizeMessage id m sm) := by
  have hkeep : Accounts (if sm.isSome then ms ++ [] else []) sm := by
    cases sm with
    | none => rfl
    | some sm => simpa using h
  rw [summarizeMessage, readable]
  cases ht : m.time? with
  | none => simpa using hkeep
  | some time =>
    simp only
    by_cases hm : m.conversation = id
    · have hne : m.conversation ≠ "" := hm ▸ hid
      simp only [hm, hid, ne_eq, not_false_eq_true, true_and, if_true, Option.isSome_some]
      cases sm with
      | none =>
        obtain rfl : ms = [] := h
        exact isNewest_nil.append ht
      | some sm => exact IsNewest.append h ht
    · simpa only [hm, and_false, if_false] using hkeep

/-- A call keeps the account of the messages and the summary of an id. -/
theorem accounts_perform {ms : List Message} (h : r.WellKept) (hid : id ≠ "")
    (hms : Accounts ms (r.summary? id)) (op : Operation) :
    Accounts (if (r.perform op).2.contains id then ms ++ accepted id op r else [])
      ((r.perform op).2.summary? id) := by
  rw [contains_eq_isSome_summary?, summary?_perform h hid]
  cases op with
  | ensure other name target =>
    simp only [accepted, Operation.message?, List.append_nil, summarize]
    cases hsm : r.summary? id with
    | some sm =>
      rw [hsm] at hms
      simpa using hms
    | none =>
      obtain rfl : ms = [] := by rwa [hsm] at hms
      split_ifs
      all_goals first | exact isNewest_nil | rfl
  | apply m =>
    have ha : r.perform (.apply m) = r.perform (.applyAs m (targetOf m)) := rfl
    rw [accepted_message rfl ha]
    exact accounts_message hms hid m
  | applyAs m target =>
    have ha : r.perform (.applyAs m target) = r.perform (.applyAs m target) := rfl
    rw [accepted_message rfl ha]
    exact accounts_message hms hid m
  | remove other =>
    simp only [accepted, Operation.message?, List.append_nil, summarize]
    split_ifs with ho hs hs
    · cases hs
    · rfl
    · obtain ⟨sm, hsm⟩ := Option.isSome_iff_exists.mp hs
      rwa [hsm] at hms ⊢
    · rw [Option.not_isSome_iff_eq_none.mp hs]
      rfl

theorem accounts_run {ms : List Message} (h : r.WellKept) (hid : id ≠ "")
    (hms : Accounts ms (r.summary? id)) (ops : List Operation) :
    Accounts (receivedAfter id ops r ms) ((run ops r).2.summary? id) := by
  induction ops generalizing r ms with
  | nil => exact hms
  | cons op ops ih => exact ih (h.perform op) (accounts_perform h hid hms op)

/-! ### The time does not go back -/

/-- A call that does not remove a session does not set its time back. -/
theorem notAfter_summarize (hop : op ≠ .remove id) (sm : Summary) :
    ∃ sm', summarize id (some sm) op = some sm' ∧ sm.NotAfter sm' := by
  have hmessage (m : Message) :
      ∃ sm', summarizeMessage id m (some sm) = some sm' ∧ sm.NotAfter sm' := by
    rw [summarizeMessage]
    split
    · split_ifs
      · exact ⟨_, rfl, sm.notAfter_next _ _⟩
      · exact ⟨sm, rfl, .refl sm⟩
    · exact ⟨sm, rfl, .refl sm⟩
  cases op with
  | ensure other _ _ => exact ⟨sm, by simp [summarize], .refl sm⟩
  | apply m => exact hmessage m
  | applyAs m _ => exact hmessage m
  | remove other =>
    have hother : other ≠ id := fun h => hop (h ▸ rfl)
    exact ⟨sm, if_neg hother, .refl sm⟩

theorem notAfter_foldl {ops : List Operation} (hops : .remove id ∉ ops) (sm : Summary) :
    ∃ sm', ops.foldl (summarize id) (some sm) = some sm' ∧ sm.NotAfter sm' := by
  induction ops generalizing sm with
  | nil => exact ⟨sm, rfl, .refl sm⟩
  | cons op ops ih =>
    rw [List.mem_cons, not_or] at hops
    obtain ⟨sm₁, h₁, hle⟩ := notAfter_summarize (Ne.symm hops.1) sm
    obtain ⟨sm₂, h₂, hle'⟩ := ih hops.2 sm₁
    exact ⟨sm₂, by rw [List.foldl_cons, h₁, h₂], hle.trans hle'⟩

/-! ### The order of arrival -/

/-- Two messages that do not tie may arrive in either order. -/
theorem summarizeMessage_comm {a b : Message} (h : a.TimesDiffer b) (id : String)
    (sm : Option Summary) :
    summarizeMessage id b (summarizeMessage id a sm) =
      summarizeMessage id a (summarizeMessage id b sm) := by
  unfold summarizeMessage
  cases ha : a.time? with
  | none => rfl
  | some t =>
    cases hb : b.time? with
    | none => rfl
    | some u =>
      simp only
      by_cases hca : a.conversation = id
      · by_cases hcb : b.conversation = id
        · have htu : t.millis ≠ u.millis := h (hca.trans hcb.symm) t u ha hb
          simp only [hca, hcb, if_true, Option.getD_some]
          rw [Summary.next_comm _ _ _ htu]
        · simp only [hca, hcb, if_true, if_false]
      · simp only [hca, if_false]

theorem summarize_of_message {m : Message} (h : op.message? = some m) (sm : Option Summary) :
    summarize id sm op = summarizeMessage id m sm := by
  cases op with
  | ensure _ _ _ => cases h
  | apply _ => cases h; rfl
  | applyAs _ _ => cases h; rfl
  | remove _ => cases h

/-- Messages of which no two of one conversation have the same time may arrive in any order. -/
theorem foldl_summarize_perm {calls calls' : List Operation} (hperm : calls.Perm calls')
    (hcalls : ∀ op ∈ calls, op.message?.isSome)
    (hdiffer : (calls.filterMap Operation.message?).Pairwise Message.TimesDiffer)
    (id : String) (sm : Option Summary) :
    calls.foldl (summarize id) sm = calls'.foldl (summarize id) sm := by
  have hcomm : calls.Pairwise fun x y =>
      ∀ sm, summarize id (summarize id sm x) y = summarize id (summarize id sm y) x := by
    refine (List.pairwise_filterMap.mp hdiffer).imp_of_mem fun {x y} hx hy hxy sm => ?_
    obtain ⟨a, ha⟩ := Option.isSome_iff_exists.mp (hcalls x hx)
    obtain ⟨b, hb⟩ := Option.isSome_iff_exists.mp (hcalls y hy)
    simp only [summarize_of_message ha, summarize_of_message hb]
    exact summarizeMessage_comm (hxy a ha b hb) id sm
  have hall := hcomm.forall_of_forall_of_flip (fun _ _ _ => rfl)
    (hcomm.imp fun h sm => (h sm).symm)
  exact hperm.foldl_eq' (fun x hx y hy => hall hx hy) sm

theorem summary?_empty_id (h : r.WellKept) : r.summary? "" = none := by
  cases hf : r.find? "" with
  | none => rw [summary?, hf]; rfl
  | some s => exact absurd rfl (h.ne_empty_of_find? hf)

/-- **The newest message is remembered.** After any calls, each session remembers the newest of
the messages it was given since it was created, the latest to arrive if several are newest. As
long as it is not removed, the time that it remembers does not go back. And messages of which no
two of one conversation have the same time leave the same summaries in whatever order they
arrive. -/
theorem summary_newest_of_run (ops : List Operation) (id : String) :
    let r := (run ops {}).2
    (∀ s, r.find? id = some s → IsNewest (received id ops) s.summary) ∧
    (∀ s later, r.find? id = some s → .remove id ∉ later →
      ∃ s', (run later r).2.find? id = some s' ∧ s.summary.NotAfter s'.summary) ∧
    ∀ calls calls', calls.Perm calls' → (∀ op ∈ calls, op.message?.isSome) →
      (calls.filterMap Operation.message?).Pairwise Message.TimesDiffer →
      (run calls r).2.summary? id = (run calls' r).2.summary? id := by
  intro r
  have hr : r.WellKept := wellKept_empty.run ops
  refine ⟨?_, ?_, ?_⟩
  · intro s hs
    have hacc : Accounts (received id ops) (r.summary? id) :=
      accounts_run wellKept_empty (hr.ne_empty_of_find? hs) rfl ops
    rwa [summary?, hs] at hacc
  · intro s later hs hlater
    have hsm : r.summary? id = some s.summary := by rw [summary?, hs]; rfl
    obtain ⟨sm, hsm', hle⟩ := notAfter_foldl hlater s.summary
    rw [← hsm, ← summary?_run hr (hr.ne_empty_of_find? hs)] at hsm'
    obtain ⟨s', hs', rfl⟩ := Option.map_eq_some_iff.mp hsm'
    exact ⟨s', hs', hle⟩
  · intro calls calls' hperm hcalls hdiffer
    by_cases hid : id = ""
    · subst hid
      rw [summary?_empty_id (hr.run calls), summary?_empty_id (hr.run calls')]
    · rw [summary?_run hr hid, summary?_run hr hid]
      exact foldl_summarize_perm hperm hcalls hdiffer id (r.summary? id)

end Registry

end ChatRouting
