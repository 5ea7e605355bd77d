import GceMachines.Compute.Backends
import GceMachines.Proofs.Lifecycle.Opening
import GceMachines.Proofs.Remote.Redirects
import GceMachines.Proofs.Remote.Server
import GceMachines.Proofs.Remote.Tokens

/-!
# The way to the service is not noticed

A service in memory that a server holds is the same service. A call that is sent to the server has
the reply that the service gives to it directly, and leaves the service as the direct call does;
this is so for any number of calls, and whoever makes lifecycle calls cannot tell which of the two
they are made on.

* `Reaches`: an access to the server, and the service behind it.
* `Passes`: what gets through to the server.
* `Alike`: a lifecycle call that has the same result either way.
* `remote_transparent`: calls and lifecycle calls.
-/

namespace GceMachines.Remote

open Program (Outcome)
open Access (Accepted Named fits)

variable {σ α : Type} {endpoint : String} {base : Url} {rest : Program.Handler Inquiry.Answer σ}
  {secret : Secret} {m : InMemory} {x : Remote (σ × InMemory)} {r : Request}

/-- **An access to a server**, and the service behind it, which answers. -/
structure Reaches (base : Url) (x : Remote (σ × InMemory)) (m : InMemory) : Prop where
  service : x.outside.2 = m
  access : ∃ token, x.access = some ⟨base, token⟩ ∧ Http.isHeaderText token = true
  speaks : m.Speaks

/-- **Credentials for which a token is lent**, one that a header can hold, and without touching the
service. -/
def Lends (base : Url) (rest : Program.Handler Inquiry.Answer σ) (secret : Secret) : Prop :=
  ∀ s m, ∃ token t, (Token.fetch secret).run (Server.outside base rest).handler (s, m) =
    .answered (.ok token) (t, m) ∧ Http.isHeaderText token = true

/-- **What gets through to a server**: credentials for which a token is lent, and calls for things
that have names, with addresses that HTTP can carry. -/
def Passes (base : Url) (rest : Program.Handler Inquiry.Answer σ) : Contact → Prop
  | .connect secret => Lends base rest secret
  | .call r => Named r ∧ fits base r = true

/-! ### One call -/

theorem ofEndpoint_of_accepted (he : Accepted endpoint base) (token : String) :
    Access.ofEndpoint endpoint token = .ok ⟨base, token⟩ := by
  obtain ⟨-, ss, hp⟩ := Url.web_of_parse he.parse he.scheme
  have hcan : base.cannotBeABase = false := by rw [Url.cannotBeABase, hp]
  unfold Access.ofEndpoint
  rw [he.parse]
  dsimp only
  rw [if_neg (by rw [hcan]; exact Bool.false_ne_true)]

theorem connect_of_lends (he : Accepted endpoint base) (hl : Lends base rest secret)
    (x : Remote (σ × InMemory)) (hm : x.outside.2.Speaks) :
    ∃ y, connect (Server.outside base rest) endpoint secret x = (.after 0 (.ok ()), y) ∧
      Reaches base y x.outside.2 := by
  obtain ⟨token, t, hrun, htoken⟩ := hl x.outside.1 x.outside.2
  refine ⟨{ x with outside := (t, x.outside.2), access := some ⟨base, token⟩ }, ?_, rfl,
    ⟨token, rfl, htoken⟩, hm⟩
  unfold connect
  rw [show x.outside = (x.outside.1, x.outside.2) from rfl, hrun]
  have haddress : ((Except.ok token).mapError TokenFault.toServiceError).bind
      (Access.ofEndpoint endpoint) = .ok ⟨base, token⟩ := ofEndpoint_of_accepted he token
  dsimp only
  rw [haddress]

/-- **A call that gets through** has the reply of the service behind the server. -/
theorem call_of_passes (he : Accepted endpoint base) (hr : Named r) (hf : fits base r = true)
    (hx : Reaches base x m) :
    (call (Server.outside base rest) r x).1 = ((InMemory.backend none).call r m).1 ∧
      Reaches base (call (Server.outside base rest) r x).2
        ((InMemory.backend none).call r m).2 := by
  obtain ⟨rfl, ⟨token, haccess, htoken⟩, hspeaks⟩ := hx
  obtain ⟨msg, hmsg⟩ := Access.message_of_fits he hf htoken
  obtain ⟨reply, m', hanswer, htold, hspeaks'⟩ := hspeaks.answer r
  have hread := Access.request?_dispatch he hr hmsg
  have hsend : (Server.outside base rest).handler (.send msg.dispatch) x.outside =
      .answered (.whole (Server.answer r reply)) (x.outside.1, m') := by
    simp only [Server.outside, hread]
    rw [hanswer]
  have hrun : (Errand.send ((Access.mk base token).message r)).run
      (Server.outside base rest).handler x.outside =
        .answered (.ok (Server.answer r reply)) (x.outside.1, m') := by
    rw [hmsg]
    exact Errand.run_send_of_settled hsend
      (Http.Message.next?_of_location_eq_none (Server.location_answer r reply))
  have hdirect : (InMemory.backend none).call r x.outside.2 = (.after 0 reply, m') := by
    simp only [InMemory.backend]
    rw [hanswer]
    rfl
  have hremote : call (Server.outside base rest) r x = (.after 0 reply,
      { x with
        outside := (x.outside.1, m')
        measures := (Access.measure? r (.ok (Server.answer r reply))).toList ++ x.measures }) := by
    unfold call
    rw [haccess]
    dsimp only
    rw [hrun]
    dsimp only
    rw [Access.reply_answer htold]
  rw [hremote, hdirect]
  exact ⟨rfl, rfl, ⟨token, haccess, htoken⟩, hspeaks'⟩

/-- **The server answers like the service** that it holds. -/
theorem agrees_of_accepted (he : Accepted endpoint base) (rest : Program.Handler Inquiry.Answer σ) :
    (backend (Server.outside base rest) endpoint).Agrees (InMemory.backend none)
      (Passes base rest) (Reaches base) where
  connect secret x m hl hx := by
    obtain ⟨rfl, -, hspeaks⟩ := hx
    obtain ⟨y, hy, hreaches⟩ := connect_of_lends he hl x hspeaks
    simp only [backend]
    rw [hy]
    exact ⟨rfl, hreaches⟩
  call r x m hp hx := call_of_passes he hp.1 hp.2 hx
  wait ms x m hx := by
    obtain ⟨rfl, haccess, hspeaks⟩ := hx
    refine ⟨?_, haccess, hspeaks⟩
    show ((rest (.pause ms) x.outside.1).beside x.outside.2).state.2 = x.outside.2
    cases rest (.pause ms) x.outside.1 <;> rfl
  interrupted _ _ _ := rfl

/-! ### Lifecycle calls -/

/-- The service that a server holds. -/
def Holds (x : Remote (σ × InMemory)) (m : InMemory) : Prop := x.outside.2 = m

/-- **A lifecycle call that has the same result either way**, on the server and on the service that
it holds, and leaves the same service, if what it contacts the service for gets through. -/
def Alike (endpoint : String) (base : Url) (rest : Program.Handler Inquiry.Answer σ)
    (p : Plan (Except MachineError α)) : Prop :=
  ∀ (cancelAt : Option Nat) (v : World (Remote (σ × InMemory))) (w : World InMemory),
    World.Agree Holds v w → w.state.Speaks →
    (∀ e ∈ ((InMemory.backend none).run cancelAt p w).state.contacts, Passes base rest e.2) →
    Outcome.Agree (World.Agree Holds)
      ((backend (Server.outside base rest) endpoint).run cancelAt p v)
      ((InMemory.backend none).run cancelAt p w)

theorem alike_of_opens (he : Accepted endpoint base) (rest : Program.Handler Inquiry.Answer σ)
    {p : Plan (Except MachineError α)} (h : Lifecycle.Opens secret p) :
    Alike endpoint base rest p := by
  intro cancelAt v w hw hspeaks hp
  obtain ⟨q, -, hrun⟩ := h.connected
  have hdirect : (InMemory.backend none).handler cancelAt (.connect secret) w =
      .answered (.ok ()) ({ w with contacts := (w.now, .connect secret) :: w.contacts }.advance
        (w.now + 0)) := rfl
  rw [hrun _ cancelAt hdirect] at hp ⊢
  have hlends : Lends base rest secret :=
    hp (w.now, .connect secret) (Backend.mem_contacts_run q (.head _))
  obtain ⟨y, hy, hreaches⟩ := connect_of_lends he hlends v.state (hw.state.symm ▸ hspeaks)
  have hremote :
      (backend (Server.outside base rest) endpoint).handler cancelAt (.connect secret) v =
        .answered (.ok ()) ({ v with
          state := y
          contacts := (v.now, .connect secret) :: v.contacts }.advance (v.now + 0)) := by
    show Backend.seeThrough (.connect secret) (connect _ endpoint secret) v = _
    unfold Backend.seeThrough
    rw [hy]
  have hcontacted : World.Agree (Reaches base)
      { v with state := y, contacts := (v.now, .connect secret) :: v.contacts }
      { w with contacts := (w.now, .connect secret) :: w.contacts } :=
    ⟨hw.now, hw.state ▸ hreaches, by rw [hw.now, hw.contacts], hw.measures⟩
  have hnow : v.now + 0 = w.now + 0 := by rw [hw.now]
  rw [hrun _ cancelAt hremote, hnow]
  have hend := Backend.run_agree (agrees_of_accepted he rest) (hcontacted.advance _) q hp
  exact hend.mono fun _ _ hstates => hstates.mono fun _ _ hreaches => hreaches.service

theorem alike_of_starts (he : Accepted endpoint base) (rest : Program.Handler Inquiry.Answer σ)
    {reason? : Option MachineError} {p : Plan (Except MachineError α)}
    (h : Lifecycle.Starts secret reason? p) : Alike endpoint base rest p := by
  cases reason? with
  | none => exact alike_of_opens he rest h
  | some e =>
    obtain ⟨ms, hrun⟩ := h
    intro cancelAt v w hw _ _
    rw [hrun, hrun]
    exact .answered _ ⟨hw.now, hw.state, hw.contacts, by rw [hw.measures]⟩

/-- **The way to the service is not noticed.** For every address of the web without a query, and
whatever else there is: calls for things that have names have the same responses one after another,
and lifecycle calls the same results, on a server at the address and on the service that it holds,
and leave the service in the same state. -/
theorem remote_transparent (he : Accepted endpoint base)
    (rest : Program.Handler Inquiry.Answer σ) :
    (∀ (rs : List Request) (x : Remote (σ × InMemory)) (m : InMemory), Reaches base x m →
      (∀ r ∈ rs, Named r ∧ fits base r = true) →
      ((backend (Server.outside base rest) endpoint).responses rs x).1 =
          ((InMemory.backend none).responses rs m).1 ∧
        Reaches base ((backend (Server.outside base rest) endpoint).responses rs x).2
          ((InMemory.backend none).responses rs m).2) ∧
    (∀ limits name spec secret,
      Alike endpoint base rest (Lifecycle.create limits name spec secret)) ∧
    (∀ limits name spec secret,
      Alike endpoint base rest (Lifecycle.delete limits name spec secret)) ∧
    (∀ limits name spec secret,
      Alike endpoint base rest (Lifecycle.status limits name spec secret)) ∧
    (∀ limits spec secret, Alike endpoint base rest (Lifecycle.list limits spec secret)) ∧
    ∀ id secret, Alike endpoint base rest (Lifecycle.describe id secret) :=
  ⟨fun _ _ _ hx hall => Backend.responses_agree (agrees_of_accepted he rest) hall hx,
    fun _ _ _ _ => alike_of_starts he rest Lifecycle.starts_create,
    fun _ _ _ _ => alike_of_starts he rest Lifecycle.starts_delete,
    fun _ _ _ _ => alike_of_starts he rest Lifecycle.starts_status,
    fun _ _ _ => alike_of_starts he rest Lifecycle.starts_list,
    fun id _ => alike_of_starts he rest (Lifecycle.starts_describe id)⟩

/-! ### A server on this machine -/

/-- An address on this machine. -/
def loopback : Url :=
  ⟨"http", none, some (.ipv6 [0, 0, 0, 0, 0, 0, 0, 1]), none, false, .segments ["v1"], none, none⟩

/-- Whoever answers every message with a token. -/
def lender : Program.Handler Inquiry.Answer Unit
  | .send _, s =>
    .answered (.whole ⟨200, none,
      Utf8.encode (Json.object [("access_token", .string "t")]).compact⟩) s
  | .file _, s => .answered (.ok (Utf8.encode "subject")) s
  | .unixTime, s => .answered 0 s
  | .pause _, s => .answered () s

/-- The message that asks for a token for that identity. -/
def localMessage : Http.Message :=
  ⟨.post, { loopback with path := .segments ["token"] }, [],
    .form (Token.subjectForm localAccount "subject")⟩

theorem run_localSubject (s : Unit) (m : InMemory) : (Token.subjectToken localAccount.source).run
    (Server.outside loopback lender).handler (s, m) = .answered (.ok "subject") (s, m) := by
  have hfile : (Server.outside loopback lender).handler (.file "f") (s, m) =
      .answered (.ok (Utf8.encode "subject")) (s, m) := rfl
  have hread : (Errand.readText "f").run (Server.outside loopback lender).handler (s, m) =
      .answered (.ok "subject") (s, m) := by
    unfold Errand.readText
    rw [Program.run_ask_of_answered _ hfile]
    dsimp only [Except.bind]
    rw [Utf8.decode?_encode]
    rfl
  have htrim : Token.subjectOf none "subject" = .ok "subject" :=
    eq_ok_of_toOption (by decide +kernel)
  exact (Program.run_bind_of_answered _ hread).trans
    (congrArg (Outcome.answered · (s, m)) htrim)

theorem run_localExchange (s : Unit) (m : InMemory) :
    (Token.exchange .subjectToken localAccount.tokenUrl none
      (.form (Token.subjectForm localAccount "subject"))).run
      (Server.outside loopback lender).handler (s, m) = .answered (.ok "t") (s, m) := by
  have hpost : Http.Message.post localAccount.tokenUrl none
      (.form (Token.subjectForm localAccount "subject")) = .ok localMessage :=
    eq_ok_of_toOption (by decide +kernel)
  -- The server leaves the message to the lender.
  have hrequest : Server.request? loopback localMessage.dispatch = none := by decide +kernel
  have hsend : (Server.outside loopback lender).handler (.send localMessage.dispatch) (s, m) =
      .answered (.whole ⟨200, none,
        Utf8.encode (Json.object [("access_token", .string "t")]).compact⟩) (s, m) := by
    simp only [Server.outside, hrequest]
    rfl
  have htoken : Token.ofAnswer .subjectToken (.ok ⟨200, none,
      Utf8.encode (Json.object [("access_token", .string "t")]).compact⟩) = .ok "t" :=
    eq_ok_of_toOption (by decide +kernel)
  unfold Token.exchange
  rw [hpost, Program.run_bind_of_answered _ (Errand.run_send_of_settled hsend
    (Http.Message.next?_of_location_eq_none rfl))]
  exact congrArg (Outcome.answered · (s, m)) htoken

theorem lends_localSecret : Lends loopback lender localSecret := by
  have hcredentials : localSecret.credentials? = some ⟨.credentialsConfig,
      Utf8.encode (ExternalAccount.record.format.encode localAccount)⟩ := by decide +kernel
  have hdecode : ExternalAccount.record.format.decode
      (Utf8.encode (ExternalAccount.record.format.encode localAccount)) = .ok localAccount :=
    eq_ok_of_toOption (by decide +kernel)
  intro s m
  refine ⟨"t", s, ?_, by decide⟩
  unfold Token.fetch
  rw [hcredentials]
  dsimp only [CredentialKey.kind]
  rw [hdecode]
  dsimp only
  unfold Token.ofExternalAccount
  rw [Program.run_bindOk_of_ok _ (run_localSubject s m),
    Program.run_bindOk_of_ok _ (run_localExchange s m)]
  rfl

/-- A service with one machine, whose name has to be encoded. -/
def stocked : InMemory := (InMemory.new 1 0).addTagged "p" "z" "vm 1" []

/-- Calls for that machine, of which one is answered and the others are refused. -/
def stockedCalls : List Request := [
  .insert "p" "z" { Instance.blank with name := "vm 1" },
  .get ⟨"p", "z", "vm 1"⟩,
  .list "p" "z" (some "a b")]

theorem run_describe_stocked (secret : Secret) : (InMemory.backend none).run none
    (Lifecycle.describe "gce:///p/z/vm 1" secret) (.start stocked) =
      .answered (.ok { Instance.blank with
          name := "vm 1", tags := some ⟨[], none⟩, status := some "RUNNING", zone := some "z" })
        ⟨0, stocked, [(0, .call (.get ⟨"p", "z", "vm 1"⟩)), (0, .connect secret)], []⟩ := rfl

/-- Calls for a machine whose name has to be encoded, and its description. -/
theorem loopback_transparent :
    Accepted "http://[::1]/v1" loopback ∧
    ((backend (Server.outside loopback lender) "http://[::1]/v1").responses stockedCalls
        ⟨((), stocked), some ⟨loopback, "t"⟩, []⟩).1 =
      ((InMemory.backend none).responses stockedCalls stocked).1 ∧
    ∃ i v, (backend (Server.outside loopback lender) "http://[::1]/v1").run none
        (Lifecycle.describe "gce:///p/z/vm 1" localSecret) (.start (.start ((), stocked))) =
      .answered (.ok i) v ∧ i.name = "vm 1" ∧ v.state.outside.2 = stocked := by
  have he : Accepted "http://[::1]/v1" loopback :=
    ⟨eq_ok_of_toOption (by decide +kernel), .inl rfl, rfl⟩
  have hspeaks : stocked.Speaks := ⟨rfl, nofun, nofun, nofun, nofun⟩
  have hfits : stockedCalls.all (fits loopback ·) = true := by decide +kernel
  have hpass : ∀ r ∈ stockedCalls, Named r ∧ fits loopback r = true := by
    refine fun r hr => ⟨?_, List.all_eq_true.mp hfits r hr⟩
    revert r
    unfold Named
    decide
  obtain ⟨hcalls, -, -, -, -, hdescribe⟩ := remote_transparent he lender
  refine ⟨he, (hcalls stockedCalls _ _ ⟨rfl, ⟨"t", rfl, by decide⟩, hspeaks⟩ hpass).1, ?_⟩
  have hsame := hdescribe "gce:///p/z/vm 1" localSecret none
    (.start (.start ((), stocked))) (.start stocked) ⟨rfl, rfl, rfl, rfl⟩ hspeaks
  rw [run_describe_stocked] at hsame
  have hcontacts : ∀ e ∈ [(0, Contact.call (.get ⟨"p", "z", "vm 1"⟩)), (0, .connect localSecret)],
      Passes loopback lender e.2 :=
    List.forall_mem_cons.mpr ⟨hpass _ (.tail _ (.head _)),
      List.forall_mem_singleton.mpr lends_localSecret⟩
  obtain ⟨v, hv, hagree⟩ := (hsame hcontacts).of_answered
  exact ⟨_, v, hv, rfl, hagree.state⟩

end GceMachines.Remote
