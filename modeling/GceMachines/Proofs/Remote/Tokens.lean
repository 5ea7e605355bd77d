import GceMachines.Proofs.Remote.Recording

/-!
# How a token is got

A token is got in one exchange or in two, and what comes before them sends nothing. The second
exchange bears the token of the first one and is tried only after that was successful.

* `Exchanged`: what an exchange sends, and what comes of it.
* `Fetched`: what fetching a token sends, and what comes of it.
* `run_fetch`: every run of an errand for a token.
* `fetch_ne_noCredentials`: credentials are not missing where a secret has some.
-/

namespace GceMachines

open Program (Outcome)

variable {σ α : Type} {o : Outside σ} {s t : σ} {secret : Secret} {sent : List Sent}

/-! ### One exchange -/

theorem Http.Message.dispatch_of_post {address : String} {token : Option String}
    {content : Http.Content} {m : Http.Message} (h : post address token content = .ok m) :
    ∃ u, Url.parse address = .ok u ∧ m.dispatch = ⟨.post, Http.uriOf u,
      (Http.userHeader? u).toList ++ (token.map Http.bearer).toList, content⟩ := by
  unfold post at h
  split at h
  · cases h
  · next u hu => exact ⟨u, hu, dispatch_of_make h⟩

namespace Token

/-- **What an exchange sends**, and what comes of it: nothing, or a message posted to its address
and what that is redirected to. -/
inductive Exchanged (what : Exchange) (address : String) (token : Option String)
    (content : Http.Content) : List Sent → Option (Except TokenFault String) → Prop
  /-- No message can be formed. -/
  | unformed {f : Http.Failure} (hm : Http.Message.post address token content = .error f) :
    Exchanged what address token content [] (some (.error (.unanswered what f)))
  | posted {u : Url} {m : Http.Message} {sent : List Sent}
    {answer : Option (Except Http.Failure Http.Answer)} (hu : Url.parse address = .ok u)
    (hm : m.dispatch = ⟨.post, Http.uriOf u,
      (Http.userHeader? u).toList ++ (token.map Http.bearer).toList, content⟩)
    (hd : Outside.Delivered Http.maxRedirects m sent answer) :
    Exchanged what address token content sent (answer.map (ofAnswer what))

theorem exchanged_of_records (what : Exchange) {address : String} {token : Option String}
    {content : Http.Content} {answer : Option (Except Http.Failure Http.Answer)}
    (h : Outside.Records (Http.Message.post address token content) sent answer) :
    Exchanged what address token content sent (answer.map (ofAnswer what)) := by
  cases h with
  | unformed hm => exact .unformed hm
  | formed hm hd =>
    obtain ⟨u, hu, hm⟩ := Http.Message.dispatch_of_post hm
    exact .posted hu hm hd

theorem run_exchange (o : Outside σ) (what : Exchange) (address : String) (token : Option String)
    (content : Http.Content) (s : σ) (sent : List Sent) :
    ∃ more,
      ((exchange what address token content).run o.recording.handler (s, sent)).state.2 =
        sent ++ more ∧
      Exchanged what address token content more
        ((exchange what address token content).run o.recording.handler (s, sent)).result? := by
  obtain ⟨more, hmore, hrec⟩ :=
    Outside.run_recording_send o (Http.Message.post address token content) s sent
  have he := exchanged_of_records what hrec
  refine ⟨more, ?_, ?_⟩
  all_goals
    rw [exchange, Program.run_bind]
    revert hmore he
    cases (Errand.send (Http.Message.post address token content)).run o.recording.handler (s, sent)
  · exact fun hmore _ => hmore
  · exact fun hmore _ => hmore
  · exact fun _ he => he
  · exact fun _ he => he

/-! ### Fetching a token -/

/-- The documents that credentials may consist of. -/
inductive Document
  | serviceAccount (key : ServiceAccountKey)
  | externalAccount (account : ExternalAccount)

/-- The document that the credentials of a secret consist of. -/
def document (secret : Secret) : Except TokenFault Document :=
  match secret.credentials? with
  | none => .error .noCredentials
  | some c =>
    match c.key.kind with
    | .serviceAccount =>
      match ServiceAccountKey.record.format.decode c.document with
      | .error f => .error (.unreadable c.key f)
      | .ok key => .ok (.serviceAccount key)
    | .externalAccount =>
      match ExternalAccount.record.format.decode c.document with
      | .error f => .error (.unreadable c.key f)
      | .ok account => .ok (.externalAccount account)

/-- A document shown for a token. -/
def ofDocument : Document → Fetch String
  | .serviceAccount key => ofServiceAccount key
  | .externalAccount account => ofExternalAccount account

theorem fetch_eq (secret : Secret) : fetch secret =
    match document secret with
    | .error f => fail f
    | .ok d => ofDocument d := by
  unfold fetch document
  cases secret.credentials? with
  | none => rfl
  | some c =>
    dsimp only
    cases c.key.kind with
    | serviceAccount => cases ServiceAccountKey.record.format.decode c.document <;> rfl
    | externalAccount => cases ExternalAccount.record.format.decode c.document <;> rfl

/-- **What fetching a token sends**, from a state of the outside on, and what comes of it. -/
inductive Fetched (o : Outside σ) (s : σ) (secret : Secret) :
    List Sent → Option (Except TokenFault String) → Prop
  /-- The document is missing or cannot be read. -/
  | unusable {f : TokenFault} (h : document secret = .error f) :
    Fetched o s secret [] (some (.error f))
  /-- The clock does not answer. -/
  | timeless {key : ServiceAccountKey} {t : σ} (h : document secret = .ok (.serviceAccount key))
    (ht : o.handler .unixTime s = .stuck t) : Fetched o s secret [] none
  /-- The key cannot sign. -/
  | unsigned {key : ServiceAccountKey} {now : Int} {t : σ} {f : Assertion.Fault}
    (h : document secret = .ok (.serviceAccount key)) (ht : o.handler .unixTime s = .answered now t)
    (hs : Assertion.sign key now = .error f) : Fetched o s secret [] (some (.error (.unsigned f)))
  /-- A signed assertion is shown. -/
  | signed {key : ServiceAccountKey} {now : Int} {t : σ} {assertion : String} {sent : List Sent}
    {result : Option (Except TokenFault String)} (h : document secret = .ok (.serviceAccount key))
    (ht : o.handler .unixTime s = .answered now t) (hs : Assertion.sign key now = .ok assertion)
    (he : Exchanged .assertion key.tokenUri none (.form (assertionForm assertion)) sent result) :
    Fetched o s secret sent result
  /-- The file of the subject does not answer. -/
  | unread {account : ExternalAccount} {t : σ}
    (h : document secret = .ok (.externalAccount account))
    (ht : (subjectToken account.source).run o.handler s = .stuck t) : Fetched o s secret [] none
  /-- The token of the subject is missing. -/
  | withoutSubject {account : ExternalAccount} {t : σ} {f : TokenFault}
    (h : document secret = .ok (.externalAccount account))
    (ht : (subjectToken account.source).run o.handler s = .answered (.error f) t) :
    Fetched o s secret [] (some (.error f))
  /-- The token of the subject is shown, and nothing comes after that. -/
  | once {account : ExternalAccount} {t : σ} {subject : String} {sent : List Sent}
    {result : Option (Except TokenFault String)}
    (h : document secret = .ok (.externalAccount account))
    (ht : (subjectToken account.source).run o.handler s = .answered (.ok subject) t)
    (he : Exchanged .subjectToken account.tokenUrl none (.form (subjectForm account subject)) sent
      result)
    (hlast : account.impersonationUrl = none ∨ ∀ token, result ≠ some (.ok token)) :
    Fetched o s secret sent result
  /-- What came of it is shown in turn. -/
  | twice {account : ExternalAccount} {t : σ} {subject token address : String}
    {first second : List Sent} {result : Option (Except TokenFault String)}
    (h : document secret = .ok (.externalAccount account))
    (ht : (subjectToken account.source).run o.handler s = .answered (.ok subject) t)
    (he : Exchanged .subjectToken account.tokenUrl none (.form (subjectForm account subject)) first
      (some (.ok token)))
    (hi : account.impersonationUrl = some address)
    (hx : Exchanged .impersonation address (some token) (.json impersonationBody.compact) second
      result) :
    Fetched o s secret (first ++ second) result

theorem subjectToken_unsent (source : CredentialSource) :
    (subjectToken source).Asks Outside.Unsent := by
  unfold subjectToken
  split
  · trivial
  · refine Program.Asks.bind (fun r => ?_) ⟨nofun, fun _ => trivial⟩
    cases r <;> trivial

theorem run_ofServiceAccount (o : Outside σ) (s : σ) (sent : List Sent) {key : ServiceAccountKey}
    (h : document secret = .ok (.serviceAccount key)) :
    ∃ more, ((ofServiceAccount key).run o.recording.handler (s, sent)).state.2 = sent ++ more ∧
      Fetched o s secret more
        ((ofServiceAccount key).run o.recording.handler (s, sent)).result? := by
  unfold ofServiceAccount
  have hclock : o.recording.handler .unixTime (s, sent) = (o.handler .unixTime s).beside sent := rfl
  cases ht : o.handler .unixTime s with
  | stuck t =>
    rw [ht] at hclock
    rw [Program.run_ask_of_stuck _ hclock]
    exact ⟨[], (List.append_nil _).symm, .timeless h ht⟩
  | answered now t =>
    rw [ht] at hclock
    rw [Program.run_ask_of_answered _ hclock]
    cases hs : Assertion.sign key now with
    | error f => exact ⟨[], (List.append_nil _).symm, .unsigned h ht hs⟩
    | ok assertion =>
      obtain ⟨more, hmore, he⟩ := run_exchange o .assertion key.tokenUri none
        (.form (assertionForm assertion)) t sent
      exact ⟨more, hmore, .signed h ht hs he⟩

theorem run_ofExternalAccount (o : Outside σ) (s : σ) (sent : List Sent) {account : ExternalAccount}
    (h : document secret = .ok (.externalAccount account)) :
    ∃ more, ((ofExternalAccount account).run o.recording.handler (s, sent)).state.2 = sent ++ more ∧
      Fetched o s secret more
        ((ofExternalAccount account).run o.recording.handler (s, sent)).result? := by
  unfold ofExternalAccount
  have hsubject : (subjectToken account.source).run o.recording.handler (s, sent) =
      ((subjectToken account.source).run o.handler s).beside sent :=
    Outside.run_recording_of_unsent (subjectToken_unsent account.source) s
  cases ht : (subjectToken account.source).run o.handler s with
  | stuck t =>
    rw [ht] at hsubject
    rw [Program.run_bindOk_of_stuck _ hsubject]
    exact ⟨[], (List.append_nil _).symm, .unread h ht⟩
  | answered r t =>
    rw [ht] at hsubject
    cases r with
    | error f =>
      rw [Program.run_bindOk_of_error _ hsubject]
      exact ⟨[], (List.append_nil _).symm, .withoutSubject h ht⟩
    | ok subject =>
      rw [Program.run_bindOk_of_ok _ hsubject]
      obtain ⟨first, hfirst, he⟩ := run_exchange o .subjectToken account.tokenUrl none
        (.form (subjectForm account subject)) t sent
      revert hfirst he
      cases hr : (exchange .subjectToken account.tokenUrl none
          (.form (subjectForm account subject))).run o.recording.handler (t, sent) with
      | stuck u =>
        intro hfirst he
        rw [Program.run_bindOk_of_stuck _ hr]
        exact ⟨first, hfirst, .once h ht he (.inr nofun)⟩
      | answered r u =>
        intro hfirst he
        cases r with
        | error f =>
          rw [Program.run_bindOk_of_error _ hr]
          exact ⟨first, hfirst, .once h ht he (.inr nofun)⟩
        | ok token =>
          rw [Program.run_bindOk_of_ok _ hr]
          cases hi : account.impersonationUrl with
          | none => exact ⟨first, hfirst, .once h ht he (.inl hi)⟩
          | some address =>
            obtain ⟨second, hsecond, hx⟩ := run_exchange o .impersonation address (some token)
              (.json impersonationBody.compact) u.1 u.2
            refine ⟨first ++ second, ?_, .twice h ht he hi hx⟩
            rw [← List.append_assoc, ← show u.2 = sent ++ first from hfirst]
            exact hsecond

/-- **Every run of an errand for a token** sends what fetching it sends, and ends with what comes
of it. -/
theorem run_fetch (o : Outside σ) (secret : Secret) (s : σ) (sent : List Sent) :
    ∃ more, ((fetch secret).run o.recording.handler (s, sent)).state.2 = sent ++ more ∧
      Fetched o s secret more ((fetch secret).run o.recording.handler (s, sent)).result? := by
  rw [fetch_eq]
  cases h : document secret with
  | error f => exact ⟨[], (List.append_nil _).symm, .unusable h⟩
  | ok d =>
    cases d with
    | serviceAccount key => exact run_ofServiceAccount o s sent h
    | externalAccount account => exact run_ofExternalAccount o s sent h

/-! ### Credentials that are there -/

theorem fetch_congr {secret' : Secret} (h : secret.credentials? = secret'.credentials?) :
    fetch secret = fetch secret' := by
  unfold fetch
  rw [h]

/-- An errand that does not miss any credentials. -/
def Furnished (p : Fetch α) : Prop := p.Fails (· ≠ .noCredentials)

theorem furnished_exchange (what : Exchange) (address : String) (token : Option String)
    (content : Http.Content) : Furnished (exchange what address token content) := by
  have hanswer (r : Except Http.Failure Http.Answer) (e : TokenFault)
      (he : ofAnswer what r = .error e) : e ≠ .noCredentials := by
    unfold ofAnswer at he
    split at he
    · cases he
      nofun
    · split at he
      · next a _ =>
        cases hd : (answerFormat what).decode a.body with
        | ok token => rw [hd] at he; cases he
        | error f => rw [hd] at he; cases he; nofun
      · cases he
        nofun
  refine Program.Ends.bind (fun r _ => ?_) Program.Ends.anyhow
  exact hanswer r

theorem furnished_fail {f : TokenFault} (hf : f ≠ .noCredentials) :
    Furnished (fail f : Fetch α) :=
  Program.Fails.done_error hf

theorem furnished_ofServiceAccount (key : ServiceAccountKey) :
    Furnished (ofServiceAccount key) := by
  intro now
  dsimp only
  split
  · exact furnished_fail nofun
  · exact furnished_exchange _ _ _ _

theorem subjectOf_ne_noCredentials (format : Option SourceFormat) (text : String) :
    subjectOf format text ≠ .error .noCredentials := by
  unfold subjectOf
  split
  · nofun
  · split
    · nofun
    · split
      · nofun
      · split <;> nofun

theorem furnished_subjectToken (source : CredentialSource) : Furnished (subjectToken source) := by
  unfold subjectToken
  split
  · exact furnished_fail nofun
  · refine fun contents => ?_
    dsimp only [Program.bind]
    split
    · exact furnished_fail nofun
    · next text _ => exact fun e he hno => subjectOf_ne_noCredentials _ _ (hno ▸ he)

theorem furnished_ofExternalAccount (account : ExternalAccount) :
    Furnished (ofExternalAccount account) := by
  refine Program.Fails.bindOk (furnished_subjectToken _) fun subject => ?_
  refine Program.Fails.bindOk (furnished_exchange _ _ _ _) fun token => ?_
  split
  · exact Program.Fails.done_ok _
  · exact furnished_exchange _ _ _ _

/-- **Credentials that are there** are not missing when a token is fetched for them. -/
theorem fetch_ne_noCredentials (h : secret.credentials? ≠ none) :
    (fetch secret).run o.handler s ≠ .answered (.error .noCredentials) t := by
  have hfurnished : Furnished (fetch secret) := by
    unfold fetch
    split
    · next hc => exact absurd hc h
    · split
      · split
        · exact furnished_fail nofun
        · exact furnished_ofServiceAccount _
      · split
        · exact furnished_fail nofun
        · exact furnished_ofExternalAccount _
  exact fun hrun => hfurnished.of_run hrun rfl

end Token

/-! ### An identity -/

namespace Remote

/-- A workload identity whose token is exchanged on this machine. -/
def localAccount : ExternalAccount := ⟨"a", "t", "http://[::1]/token", none, ⟨some "f", none⟩⟩

/-- A secret with that identity. -/
def localSecret : Secret := .ofList [
  ("credentialsConfig", Utf8.encode (ExternalAccount.record.format.encode localAccount)),
  ("projectID", Utf8.encode "p")]

end Remote

end GceMachines
