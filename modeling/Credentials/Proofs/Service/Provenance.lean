import Credentials.Proofs.Service.Revocation

/-!
# Where records come from

Every record in a key store that is used through a service was filed by a request
of its issuer, who was logged in at the time, and who administered the platform
if the key is for somebody else. The policy agent is asked at the request: it may
be of another mind later, and a record stays.
-/

namespace Credentials

theorem Relationship.isIncomplete_admin {subject : String} (h : subject ≠ "") :
    (admin subject).isIncomplete = false :=
  isIncomplete_eq_false_iff.2 ⟨h, by simp [admin], by simp [admin]⟩

namespace Service

variable (svc : Service)

/-! ## The request behind a record -/

/-- That an event creates a record under an id, and by what right: it is a request that is answered
with a token of this id, from the holder of a live login who becomes the issuer; and if the key is
for somebody else, the policy agent is at hand and holds that the issuer administers the
platform. -/
structure Creates (w : World) (e : Event) (id : String) (record : Key) : Prop where
  absent : w.keys.find? id = none
  present : (svc.react w e).2.keys.find? id = some record
  requested : ∃ clock token request caller t, e = .call clock id (.issue token request) ∧
    (svc.react w e).1 = .answered (.token t) ∧ t.keyId = some id ∧
    svc.codec.decode token = .ok caller ∧ svc.IsLive clock caller ∧ caller.keyType = .access ∧
    record = { request with
      id := some id, issuer := caller.subject, expiresAt := record.expiresAt }
  entitled : record.subject ≠ record.issuer → w.relations.available = true ∧
    w.relations.holds ⟨record.issuer, "admin", "platform"⟩ = true

theorem creates_of_files {w : World} {e : Event} {id : String} {record : Key}
    (h : svc.Files w e id record) : svc.Creates w e id { record with id := some id } := by
  have hreact := svc.react_of_files h
  obtain ⟨clock, token, request, rfl, htype, hgrant, hfree⟩ := h
  obtain ⟨hvet, caller, expiresAt, hcaller, hpermit, hexpiry, rfl⟩ := svc.grant_eq_ok_iff.1 hgrant
  obtain ⟨hdecode, hlive, hlogin⟩ := svc.caller_eq_ok_iff.1 hcaller
  have habsent := KeyStore.find?_eq_none_of_not_isTaken hfree
  constructor
  · exact habsent
  · rw [hreact]
    exact (KeyStore.find?_file_eq_some_iff habsent).2 (.inl ⟨rfl, rfl⟩)
  · exact ⟨clock, token, request, caller, _, rfl, by rw [hreact], rfl, hdecode, hlive, hlogin, rfl⟩
  · intro hother
    obtain ⟨-, havailable, hholds⟩ := permit_eq_ok_iff.1 hpermit (Ne.symm hother)
    exact ⟨havailable, hholds⟩

/-! ## Runs -/

/-- What is found after an event was found before it, or was created by it. -/
theorem find?_or_creates_of_react {w : World} {e : Event} {id : String} {record : Key}
    (he : e.isSave = false) (h : (svc.react w e).2.keys.find? id = some record) :
    w.keys.find? id = some record ∨ svc.Creates w e id record := by
  rcases svc.react_keys w e with
    hkeys | ⟨drawn, key, rfl, -⟩ | ⟨other, new, hfiles, hkeys⟩ | ⟨issuer, other, -, hkeys⟩
  · rw [hkeys] at h
    exact .inl h
  · cases he
  · have hcreates := svc.creates_of_files hfiles
    rw [hkeys, KeyStore.find?_file_eq_some_iff hcreates.absent] at h
    rcases h with ⟨rfl, rfl⟩ | h
    · exact .inr hcreates
    · exact .inl h
  · rw [hkeys] at h
    exact .inl (KeyStore.find?_remove_eq_some_iff.1 h).1

/-- What is found after a run was there from the start, or was created on the way. -/
theorem find?_or_creates_of_run {w : World} {events : List Event} {id : String} {record : Key}
    (hevents : ∀ e ∈ events, e.isSave = false)
    (h : (svc.run w events).keys.find? id = some record) :
    w.keys.find? id = some record ∨ ∃ before e later, events = before ++ e :: later ∧
      svc.Creates (svc.run w before) e id record := by
  induction events generalizing w with
  | nil => exact .inl h
  | cons e events ih =>
    obtain ⟨he, hevents⟩ := List.forall_mem_cons.1 hevents
    rcases ih hevents h with hfirst | ⟨before, d, later, rfl, hcreates⟩
    · rcases svc.find?_or_creates_of_react he hfirst with hstart | hcreates
      · exact .inl hstart
      · exact .inr ⟨[], e, events, rfl, hcreates⟩
    · exact .inr ⟨e :: before, d, later, rfl, hcreates⟩

/-! ## Requests for somebody else -/

variable {svc} {w : World} {clock : Clock} {token : String} {request caller : Key}

theorem grant_of_not_permitted {relations : Relations} (hvet : svc.vet clock request = .ok ())
    (hcaller : svc.caller clock token .access = .ok caller) {halt : Halt}
    (hpermit : permit relations caller.subject request.subject = .error halt) :
    svc.grant relations clock token request = .error halt := by
  rw [grant, hvet, entitle, hcaller]
  simp only [bind, Except.bind, hpermit]

/-- A valid request of a caller who is not permitted to make it ends there. -/
theorem issue_of_not_permitted (drawn : String)
    (htype : request.keyType.persistence = .persisted) (hvet : svc.vet clock request = .ok ())
    (hcaller : svc.caller clock token .access = .ok caller) {halt : Halt}
    (hpermit : permit w.relations caller.subject request.subject = .error halt) :
    svc.issue (World.backend drawn) clock token request w = .error halt w := by
  rw [svc.issue_of_persisted drawn w htype, grant_of_not_permitted hvet hcaller hpermit]

theorem permit_of_ne (relations : Relations) {subject other : String} (hsubject : subject ≠ "")
    (hne : subject ≠ other) :
    permit relations subject other = if relations.available then
        refusing .ofPolicy (Gateway.verdict (relations.holds (.admin subject)))
      else refusing .ofPolicy (.error Relations.switchedOff) := by
  rw [permit, if_pos hne, Relations.ruling_of_complete (Relationship.isIncomplete_admin hsubject)]
  split <;> rfl

variable (svc) in
/-- Nobody has a key issued for somebody else without administering the platform. In every run of
a service from an empty key store, every record that is ever in it was created by a request of its
issuer, who was entitled to it at the time. And a request without that right is refused, as one to
be tried again if the policy agent is away and for good if it says no, and nothing is filed. -/
theorem issuers_are_entitled (relations : Relations) {events : List Event}
    (hevents : ∀ e ∈ events, e.isSave = false) :
    (∀ past, past <+: events → ∀ id record,
      (svc.run { relations } past).keys.find? id = some record →
      ∃ before e later, past = before ++ e :: later ∧
        svc.Creates (svc.run { relations } before) e id record) ∧
    ∀ (w : World) (drawn : String) (clock : Clock) (token : String) (request caller : Key),
      (request.keyType = .api ∨ request.keyType = .recovery) → svc.vet clock request = .ok () →
      svc.codec.decode token = .ok caller → svc.IsLive clock caller → caller.keyType = .access →
      caller.subject ≠ request.subject →
      (w.relations.available = false →
        svc.issue (World.backend drawn) clock token request w
          = .error (.refused (.unavailable "in-memory policy agent switched off")) w) ∧
      (w.relations.available = true →
        w.relations.holds ⟨caller.subject, "admin", "platform"⟩ = false →
        svc.issue (World.backend drawn) clock token request w
          = .error (.refused .authorization) w) := by
  constructor
  · intro past hpast id record hfound
    have hservice : ∀ e ∈ past, e.isSave = false := fun e he => hevents e (hpast.subset he)
    rcases svc.find?_or_creates_of_run hservice hfound with hstart | hcreates
    · cases hstart
    · exact hcreates
  · intro w drawn clock token request caller htype hvet hdecode hlive hlogin hother
    have hstored := persisted_iff.2 htype
    have hcaller := svc.caller_eq_ok_iff.2 ⟨hdecode, hlive, hlogin⟩
    have hpermit := permit_of_ne w.relations
      (svc.codec.isCanonical_of_decode hdecode).subject_ne hother
    constructor
    · intro haway
      refine issue_of_not_permitted drawn hstored hvet hcaller ?_
      rw [hpermit, haway]
      rfl
    · intro havailable hno
      refine issue_of_not_permitted drawn hstored hvet hcaller ?_
      rw [hpermit, havailable, Relationship.admin, hno]
      rfl

/-! ## An administrator at work -/

/-- A key for Bob that never expires. -/
def bobsKey : Key := { keyType := .api, subject := "bob", issuedAt := morning }

theorem grant_bobsKey {relations : Relations} (havailable : relations.available = true)
    (hadmin : relations.holds (.admin "alice") = true) :
    usual.grant relations (.showing morning) (usual.codec.encode (morningLogin "alice")) bobsKey
      = .ok { bobsKey with issuer := "alice" } := by
  have hlogin := caller_morningLogin (show "alice" ≠ "" by decide)
  have hvet : usual.vet (.showing morning) bobsKey = .ok () := rfl
  have hpermit : permit relations "alice" "bob" = .ok () :=
    permit_eq_ok_iff.2 fun _ => ⟨by decide, havailable, hadmin⟩
  exact usual.grant_eq_ok_iff.2 ⟨hvet, _, none, hlogin, hpermit, rfl, rfl⟩

/-- Alice has a key issued for Bob while she administers the platform. The key is still there
after she lost the right and the agent went away, and it tells where it came from. Without the
right she is refused. -/
theorem issuers_are_entitled_for_alice :
    let login := usual.codec.encode (morningLogin "alice")
    let now : Clock := .showing morning
    let events : List Event := [
      .call now "" (.addPolicy (.admin "alice")),
      .call now "k" (.issue login bobsKey),
      .call now "" (.deletePolicy (.admin "alice")),
      .switch false]
    (∃ record, (usual.run {} events).keys.find? "k" = some record ∧ record.subject = "bob" ∧
      ∃ before e later, events = before ++ e :: later ∧
        usual.Creates (usual.run {} before) e "k" record) ∧
    usual.issue (World.backend "k") now login bobsKey { relations := { available := false } }
      = .error (.refused (.unavailable "in-memory policy agent switched off"))
          { relations := { available := false } } ∧
    usual.issue (World.backend "k") now login bobsKey {} = .error (.refused .authorization) {} := by
  intro login now events
  have hlogin := caller_morningLogin (show "alice" ≠ "" by decide)
  obtain ⟨hdecode, hlive, hkind⟩ := usual.caller_eq_ok_iff.1 hlogin
  have hevents : ∀ e ∈ events, e.isSave = false := by simp [events, Event.isSave]
  obtain ⟨horigin, hrefused⟩ := usual.issuers_are_entitled {} hevents
  obtain ⟨haway, -⟩ := hrefused { relations := { available := false } } "k" now login bobsKey _
    (.inl rfl) rfl hdecode hlive hkind (by decide)
  obtain ⟨-, hdenied⟩ := hrefused {} "k" now login bobsKey _ (.inl rfl) rfl hdecode hlive hkind
    (by decide)
  have hfiles : usual.Files { relations := { facts := [.admin "alice"] } }
      (.call now "k" (.issue login bobsKey)) "k" { bobsKey with issuer := "alice" } :=
    ⟨now, login, bobsKey, rfl, rfl, grant_bobsKey rfl (by decide), by decide⟩
  have hfound : (usual.run {} events).keys.find? "k"
      = some { bobsKey with id := some "k", issuer := "alice" } := by
    have hadd : (usual.react {} (.call now "" (.addPolicy (.admin "alice")))).2
        = { relations := { facts := [.admin "alice"] } } := by
      rw [react_addPolicy]
      rfl
    simp only [events, run, List.foldl, hadd, usual.react_of_files hfiles, react_deletePolicy]
    rfl
  exact ⟨⟨_, hfound, rfl, horigin _ (List.prefix_refl _) _ _ hfound⟩, haway rfl,
    hdenied rfl (by decide)⟩

end Service

end Credentials
