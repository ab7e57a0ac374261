import Credentials.Service.Error

/-!
# Errors keep their class

What a backend reports reaches the callers of a service by several conversions.
None of them makes a failure for good look like one that may pass, nor the other
way round, and none takes trouble in a backend for a credential that is not
accepted. What a database client reports is sorted by a table, `IsAnswered`, which
gives for each error what the service has to say of it.
-/

namespace Credentials

/-! ## Database clients -/

namespace DatabaseError

/-- Whether trouble may pass: the connection broke off, or there is none to be had. -/
inductive IsOutage : DatabaseError → Prop where
  | io (text : String) : IsOutage (.io text)
  | tls (text : String) : IsOutage (.tls text)
  | poolTimedOut : IsOutage .poolTimedOut
  | poolClosed : IsOutage .poolClosed
  | workerCrashed : IsOutage .workerCrashed

/-- What a service has to say of an error, and with which status. -/
inductive IsAnswered : DatabaseError → ServiceError → Nat → Prop where
  | absent : IsAnswered .rowNotFound .notFound 404
  | outage {e : DatabaseError} (h : e.IsOutage) : IsAnswered e (.unavailable e.message) 503
  | taken (text : String) : IsAnswered (.database (some "23505") text) .conflict 409
  | unfit {code : String} (h : code = "22001" ∨ code = "22P02") (text : String) :
      IsAnswered (.database (some code) text) (.malformed text) 400
  /-- All other codes are alike, and so is none. -/
  | unsorted {code : Option String} (h : code ∉ [some "23505", some "22001", some "22P02"])
      (text : String) :
      IsAnswered (.database code text) (.internal (DatabaseError.database code text).message) 500
  | defect {e : DatabaseError} (habsent : e ≠ .rowNotFound) (houtage : ¬ e.IsOutage)
      (hdatabase : ∀ code text, e ≠ .database code text) :
      IsAnswered e (.internal e.message) 500

end DatabaseError

namespace StoreError

variable {e : DatabaseError}

theorem ofDatabase_of_isOutage (h : e.IsOutage) : ofDatabase e = .unavailable e.message := by
  cases h <;> rfl

theorem ofDatabase_of_code {code : Option String}
    (h : code ∉ [some "23505", some "22001", some "22P02"]) (text : String) :
    ofDatabase (.database code text) = .database (.database code text) := by
  simp only [List.mem_cons, List.not_mem_nil, or_false, not_or] at h
  obtain ⟨htaken, htooLong, hinvalid⟩ := h
  exact (if_neg htaken).trans (if_neg (not_or.2 ⟨htooLong, hinvalid⟩))

theorem ofDatabase_of_defect (habsent : e ≠ .rowNotFound) (houtage : ¬ e.IsOutage)
    (hdatabase : ∀ code text, e ≠ .database code text) : ofDatabase e = .database e := by
  cases e with
  | rowNotFound => exact absurd rfl habsent
  | database code text => exact absurd rfl (hdatabase code text)
  | io text => exact absurd (.io text) houtage
  | tls text => exact absurd (.tls text) houtage
  | poolTimedOut => exact absurd .poolTimedOut houtage
  | poolClosed => exact absurd .poolClosed houtage
  | workerCrashed => exact absurd .workerCrashed houtage
  | _ => rfl

end StoreError

namespace ServiceError

/-! ## Retries -/

/-- Turning an error of a key store into one of the service does not change whether another try is
worth while. -/
theorem isRetryable_ofStore (e : StoreError) : (ofStore e).isRetryable = e.isRetryable := by
  cases e <;> rfl

theorem isRetryable_iff_status (e : ServiceError) : e.isRetryable = true ↔ e.status = 503 := by
  cases e <;> simp [isRetryable, status]

theorem isRetryable_iff_code (e : ServiceError) :
    e.isRetryable = true ↔ e.code = "UNAVAILABLE" := by
  cases e with
  | authentication reason => cases reason <;> simp [isRetryable, code]
  | _ => simp [isRetryable, code]

end ServiceError

/-! ## Answers -/

namespace DatabaseError

variable {e : DatabaseError} {x : ServiceError} {status : Nat}

theorem IsAnswered.eq (h : e.IsAnswered x status) :
    ServiceError.ofStore (.ofDatabase e) = x ∧ x.status = status := by
  cases h with
  | absent => exact ⟨rfl, rfl⟩
  | outage h => exact ⟨by rw [StoreError.ofDatabase_of_isOutage h, ServiceError.ofStore], rfl⟩
  | taken text => exact ⟨rfl, rfl⟩
  | unfit h text =>
    obtain rfl | rfl := h
    · exact ⟨rfl, rfl⟩
    · exact ⟨rfl, rfl⟩
  | unsorted h text => exact ⟨by rw [StoreError.ofDatabase_of_code h, ServiceError.ofStore], rfl⟩
  | defect habsent houtage hdatabase =>
    exact ⟨by rw [StoreError.ofDatabase_of_defect habsent houtage hdatabase, ServiceError.ofStore],
      rfl⟩

/-- The table has a row for each error. -/
theorem exists_isAnswered (e : DatabaseError) : ∃ x status, e.IsAnswered x status := by
  by_cases habsent : e = .rowNotFound
  · subst habsent
    exact ⟨_, _, .absent⟩
  by_cases houtage : e.IsOutage
  · exact ⟨_, _, .outage houtage⟩
  by_cases hdatabase : ∃ code text, e = .database code text
  · obtain ⟨code, text, rfl⟩ := hdatabase
    by_cases hcode : code ∈ [some "23505", some "22001", some "22P02"]
    · simp only [List.mem_cons, List.not_mem_nil, or_false] at hcode
      obtain rfl | rfl | rfl := hcode
      · exact ⟨_, _, .taken text⟩
      · exact ⟨_, _, .unfit (.inl rfl) text⟩
      · exact ⟨_, _, .unfit (.inr rfl) text⟩
    · exact ⟨_, _, .unsorted hcode text⟩
  · exact ⟨_, _, .defect habsent houtage fun code text h => hdatabase ⟨code, text, h⟩⟩

theorem isAnswered_iff :
    e.IsAnswered x status ↔ ServiceError.ofStore (.ofDatabase e) = x ∧ x.status = status := by
  constructor
  · exact IsAnswered.eq
  · rintro ⟨rfl, rfl⟩
    -- there is a row, and every row says what the service says
    obtain ⟨y, answered, h⟩ := exists_isAnswered e
    obtain ⟨rfl, rfl⟩ := h.eq
    exact h

theorem IsAnswered.isRetryable_iff (h : e.IsAnswered x status) :
    x.isRetryable = true ↔ e.IsOutage := by
  cases h with
  | outage h => exact ⟨fun _ => h, fun _ => rfl⟩
  | defect _ houtage _ => exact ⟨nofun, fun h => absurd h houtage⟩
  | _ => exact ⟨nofun, nofun⟩

theorem isRetryable_ofDatabase_iff (e : DatabaseError) :
    (StoreError.ofDatabase e).isRetryable = true ↔ e.IsOutage := by
  obtain ⟨x, status, h⟩ := exists_isAnswered e
  rw [← ServiceError.isRetryable_ofStore, h.eq.1]
  exact h.isRetryable_iff

end DatabaseError

/-! ## Classes -/

namespace ServiceError

theorem ofStore_ne_authentication (e : StoreError) (reason : Rejection) :
    ofStore e ≠ .authentication reason := by
  cases e <;> nofun

theorem ofStore_ne_authorization (e : StoreError) : ofStore e ≠ .authorization := by
  cases e <;> nofun

theorem ofPolicy_ne_authentication (e : PolicyError) (reason : Rejection) :
    ofPolicy e ≠ .authentication reason := by
  cases e <;> nofun

theorem ofPolicy_eq_authorization_iff {e : PolicyError} :
    ofPolicy e = .authorization ↔ e = .denied := by
  cases e <;> simp [ofPolicy]

/-- Classes of errors survive every conversion. An error of a service is worth another try exactly
if it has the status and the code of an unavailable backend, and exactly if the error of the key
store or the policy agent that it was made of is worth one. No error of a key store becomes a
refusal of a credential or of a right, and of those of a policy agent only its no becomes a refusal
of the right. What a database client reports is worth another try exactly if the connection is the
trouble, and the service says of it what the table says. -/
theorem classes_survive_conversion :
    (∀ e : ServiceError,
      (e.isRetryable = true ↔ e.status = 503) ∧ (e.isRetryable = true ↔ e.code = "UNAVAILABLE")) ∧
    (∀ e : StoreError, (ofStore e).isRetryable = e.isRetryable ∧ ofStore e ≠ .authorization ∧
      ∀ reason, ofStore e ≠ .authentication reason) ∧
    (∀ e : PolicyError, (ofPolicy e).isRetryable = e.isRetryable ∧
      (ofPolicy e = .authorization ↔ e = .denied) ∧ ∀ reason, ofPolicy e ≠ .authentication reason) ∧
    ∀ e : DatabaseError, ((StoreError.ofDatabase e).isRetryable = true ↔ e.IsOutage) ∧
      ∀ x status, e.IsAnswered x status ↔ ofStore (.ofDatabase e) = x ∧ x.status = status := by
  refine ⟨fun e => ⟨e.isRetryable_iff_status, e.isRetryable_iff_code⟩, fun e => ?store,
    fun e => ?policy, fun e => ⟨e.isRetryable_ofDatabase_iff, fun x status => e.isAnswered_iff⟩⟩
  case store =>
    exact ⟨isRetryable_ofStore e, ofStore_ne_authorization e, ofStore_ne_authentication e⟩
  case policy =>
    exact ⟨isRetryable_ofPolicy e, ofPolicy_eq_authorization_iff, ofPolicy_ne_authentication e⟩

end ServiceError

end Credentials
