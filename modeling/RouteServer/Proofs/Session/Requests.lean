import RouteServer.Proofs.Session.History

/-! # Requests for the protocol

A request to tear a session down waits until it is taken. There is one for each known key that has been torn down
since requests were taken the last time, with the code of the last time.
-/

namespace RouteServer.Session

variable {t : Table} {history : List Operation} {operation : Operation} {key : Key} {code : UInt32}

/-! ## What one operation does -/

theorem mem_requests : (key, code) ∈ t.takeTeardowns.1 ↔ t.teardowns.get? key = some code :=
  Keyed.get?_eq_some_iff.symm

/-- A request is there if it is made now, or else was there and is neither taken nor replaced. -/
theorem mem_requests_perform (t : Table) (operation : Operation) (key : Key) (code : UInt32) :
    (key, code) ∈ (t.perform operation).takeTeardowns.1 ↔
      operation = .teardown key code ∧ t.contains key = true ∨
      (key, code) ∈ t.takeTeardowns.1 ∧ operation ≠ .takeTeardowns ∧
        ¬ (t.contains key = true ∧ ∃ later, operation = .teardown key later) := by
  rw [mem_requests, mem_requests]
  cases operation with
  | add n => simp [Table.perform, Table.addNeighbor]
  | update k event => simp [Table.perform, Table.update]
  | takeTeardowns =>
    have hnone : ({} : Keyed Key UInt32).get? key = none := rfl
    simp [Table.perform, Table.takeTeardowns, hnone]
  | advance milliseconds => simp [Table.perform, Table.advance]
  | teardown k later =>
    by_cases hknown : t.contains k = true
    · by_cases hkey : key = k
      · subst hkey
        simp [Table.perform, Table.teardown, hknown, Keyed.get?_insert]
      · simp [Table.perform, Table.teardown, hknown, Keyed.get?_insert, hkey, Ne.symm hkey]
    · by_cases hkey : key = k
      · subst hkey
        simp [Table.perform, Table.teardown, hknown]
      · simp [Table.perform, Table.teardown, hknown, Ne.symm hkey]

theorem contains_perform (h : t.contains key = true) (operation : Operation) :
    (t.perform operation).contains key = true := by
  obtain ⟨e, he⟩ := Keyed.contains_iff.mp h
  refine Keyed.contains_iff.mpr ?_
  by_cases hother : ∀ m, operation = .add m → Key.ofNeighbor m ≠ key
  · rw [get?_perform t hother, he]
    exact ⟨_, rfl⟩
  · push Not at hother
    obtain ⟨n, rfl, hkey⟩ := hother
    rw [Table.perform, Table.addNeighbor, Keyed.get?_insert, if_pos hkey.symm]
    exact ⟨_, rfl⟩

/-! ## Requests of a history -/

/-- The last teardown of a key, while the key was known, and nothing has been taken since. -/
def Requested (history : List Operation) (key : Key) (code : UInt32) : Prop :=
  ∃ before since, history = before ++ .teardown key code :: since ∧
    (Table.after before).contains key = true ∧ .takeTeardowns ∉ since ∧ ∀ later, .teardown key later ∉ since

theorem Requested.contains (h : Requested history key code) : (Table.after history).contains key = true := by
  obtain ⟨before, since, rfl, hknown, -⟩ := h
  rw [Table.after_append]
  generalize Table.after before = t at hknown
  generalize Operation.teardown key code :: since = late
  induction late generalizing t with
  | nil => exact hknown
  | cons operation rest ih => exact ih _ (contains_perform hknown operation)

theorem requested_concat : Requested (history ++ [operation]) key code ↔
    operation = .teardown key code ∧ (Table.after history).contains key = true ∨
    Requested history key code ∧ operation ≠ .takeTeardowns ∧ ∀ later, operation ≠ .teardown key later := by
  constructor
  · rintro ⟨before, since, heq, hknown, htaken, hlast⟩
    rcases Lists.concat_eq_append_cons_iff.mp heq with ⟨rfl, rfl, rfl⟩ | ⟨more, rfl, rfl⟩
    · exact .inl ⟨rfl, hknown⟩
    · simp only [List.mem_append, List.mem_singleton, not_or] at htaken hlast
      exact .inr ⟨⟨before, more, rfl, hknown, htaken.1, fun later => (hlast later).1⟩, Ne.symm htaken.2,
        fun later => Ne.symm (hlast later).2⟩
  · rintro (⟨rfl, hknown⟩ | ⟨⟨before, since, rfl, hknown, htaken, hlast⟩, htake, hteardown⟩)
    · exact ⟨history, [], rfl, hknown, by simp, by simp⟩
    · refine ⟨before, since ++ [operation], by simp, hknown, ?_, fun later => ?_⟩
      · simpa [htaken] using Ne.symm htake
      · simpa [hlast] using Ne.symm (hteardown later)

theorem mem_requests_after : (key, code) ∈ (Table.after history).takeTeardowns.1 ↔ Requested history key code := by
  induction history using List.reverseRecOn with
  | nil =>
    refine iff_of_false List.not_mem_nil ?_
    rintro ⟨before, since, h, -⟩
    simp at h
  | append_singleton history operation ih =>
    rw [Table.after_concat, mem_requests_perform, requested_concat, ih]
    -- A key with a request is known, so that every later teardown of it counts.
    refine or_congr_right (and_congr_right fun hrequested => and_congr_right fun _ => ?_)
    simp [hrequested.contains]

/-- Requests are neither lost nor repeated. Those that wait are, in the order of their keys, those of the history,
and what an operation does to one of them depends on nothing but the operation. -/
theorem requests_wait_until_taken (history : List Operation) :
    let t := Table.after history
    t.takeTeardowns.1.Pairwise (fun a b => compare a.1 b.1 = .lt) ∧
      (∀ key code, (key, code) ∈ t.takeTeardowns.1 ↔ Requested history key code) ∧
      t.pendingTeardowns = t.takeTeardowns.1.length ∧
      ∀ operation key code, (key, code) ∈ (t.perform operation).takeTeardowns.1 ↔
        operation = .teardown key code ∧ t.contains key = true ∨
        (key, code) ∈ t.takeTeardowns.1 ∧ operation ≠ .takeTeardowns ∧
          ¬ (t.contains key = true ∧ ∃ later, operation = .teardown key later) := by
  intro t
  exact ⟨t.teardowns.sorted, fun key code => mem_requests_after, rfl, mem_requests_perform t⟩

end RouteServer.Session
