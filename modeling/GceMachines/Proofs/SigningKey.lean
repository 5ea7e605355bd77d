import GceMachines.Auth.Token
import GceMachines.Proofs.Json.Member
import GceMachines.Proofs.Machine.Secret

/-!
# The project of a signing key

The key of a service account is read twice: for the project that its machines are in, and for the
key that tokens are signed with. The second reading wants more of the document than the first one.
Still they cannot come apart: a document that both accept is an object, which names its project
once, because a list that is long enough for the key is too long for the project.

* `Secret.keeps_project`, `ServiceAccountKey.keeps_project`: both keep what is under `project_id`.
* `Secret.read_projectRecord_of_key`: documents that both accept.
* `Token.signs_for_project`: the project is that of the key which tokens are signed with.
-/

namespace GceMachines

open Json

variable {room : Nat} {d : Document} {key : ServiceAccountKey} {named : Option String}
  {secret : Secret} {c : Credentials} {p : String}

/-- The name of the member that names the project. -/
def projectMember : String := "project_id"

theorem Secret.keeps_project : projectRecord.Keeps projectMember (.option .string) id where
  known := by decide
  own := by simp [projectRecord, projectMember]
  others := by simp [projectRecord, projectMember]

theorem ServiceAccountKey.keeps_project :
    record.Keeps projectMember (.option .string) projectId where
  known := by decide
  own := by simp [record, projectMember]
  others := by simp [record, projectMember]

/-- **A document that both readings accept** is an object. They read the same project, and if there
is one, it stands under its name once. -/
theorem Secret.read_projectRecord_of_key (hp : projectRecord.read room d = .ok named)
    (hkey : ServiceAccountKey.record.read room d = .ok key) :
    ∃ ms, d = .object ms ∧ key.projectId = named ∧
      ∀ p, named = some p → ∃ t, ms.under projectMember = [.string t] ∧ t.value = .ok p := by
  cases d with
  | array is =>
    -- the key needs two items, and the project takes one at most
    have hshort : is.length ≤ 1 := (Record.read_array hp).1
    have hrest := (Record.read_array hkey).2
    obtain h | h : is.length = 0 ∨ is.length = 1 := by omega
    all_goals
      rw [h] at hrest
      exact absurd (hrest _ (.head _)) (by decide)
  | object ms =>
    refine ⟨ms, rfl, ServiceAccountKey.keeps_project.read_object_eq Secret.keeps_project rfl hkey
      hp, ?_⟩
    rintro p rfl
    obtain ⟨-, hnone⟩ | ⟨d, hunder, hd⟩ := Secret.keeps_project.read_object hp
    · cases hnone
    · cases d with
      | string t =>
        obtain ⟨text, hvalue, htext⟩ := exists_of_map hd
        exact ⟨t, hunder, hvalue.trans (by rw [Option.some.inj htext])⟩
      | _ => cases hd
  | _ => cases hp

theorem Secret.decode_projectRecord (hc : secret.credentials? = some c)
    (hkind : c.key.kind = .serviceAccount) (hp : secret.project = .ok p) :
    projectRecord.format.decode c.document = .ok (some p) ∧ p ≠ "" := by
  obtain ⟨c', hc', hnamed, hne⟩ := project_eq_ok_iff.mp hp
  obtain rfl : c' = c := Option.some.inj (hc'.symm.trans hc)
  unfold namedProject at hnamed
  simp only [hkind] at hnamed
  cases hread : projectRecord.format.decode c'.document with
  | error f =>
    rw [hread] at hnamed
    cases hnamed
  | ok named =>
    rw [hread] at hnamed
    have hnamed : named.getD "" = p := Except.ok.inj hnamed
    -- a project that is missing is the empty one
    cases named with
    | none => exact absurd hnamed.symm hne
    | some q => exact ⟨by rw [← hnamed]; rfl, hne⟩

/-- **Tokens are signed with the key of the project**: if the credentials in use are the key of a
service account that can be read, and they belong to a project, then tokens are signed with this
key, and the key names this project, which is not empty. The document is an object, and the project
stands under its name there and nowhere else under this name. -/
theorem Token.signs_for_project (hc : secret.credentials? = some c)
    (hkind : c.key.kind = .serviceAccount) (hp : secret.project = .ok p)
    (hkey : ServiceAccountKey.record.format.decode c.document = .ok key) :
    Token.fetch secret = Token.ofServiceAccount key ∧ key.projectId = some p ∧ p ≠ "" ∧
      ∃ ms t, (parse c.document).1 = .object ms ∧ ms.under "project_id" = [.string t] ∧
        t.value = .ok p := by
  have hfetch : Token.fetch secret = Token.ofServiceAccount key := by
    unfold Token.fetch
    rw [hc]
    dsimp only
    rw [hkind]
    dsimp only
    rw [hkey]
  obtain ⟨hdecode, hne⟩ := Secret.decode_projectRecord hc hkind hp
  obtain ⟨ms, hms, hproject, hunder⟩ := Secret.read_projectRecord_of_key
    (Format.read_of_decode hdecode) (Format.read_of_decode hkey)
  obtain ⟨t, ht, hvalue⟩ := hunder p rfl
  exact ⟨hfetch, hproject, hne, ms, t, hms, ht, hvalue⟩

/-- The key of a service account, with its project in a member whose name is written with an escape
sequence, and another one further inside. -/
def escapedKey : List UInt8 := Utf8.encode <|
  "\x7b\"client_email\":\"e\",\"x\":\x7b\"project_id\":\"q\"\x7d," ++
    "\"project\\u005fid\":\"p\",\"private_key\":\"k\"\x7d"

/-- The project is the one of the key itself. -/
theorem Token.signs_for_project_escaped :
    Token.fetch (.ofList [("serviceAccountJSON", escapedKey)]) =
        Token.ofServiceAccount ⟨"e", "k", ServiceAccountKey.defaultTokenUri, some "p"⟩ ∧
      ∃ ms t, (parse escapedKey).1 = .object ms ∧ ms.under "project_id" = [.string t] ∧
        t.value = .ok "p" :=
  have hc : Secret.credentials? (.ofList [("serviceAccountJSON", escapedKey)]) =
      some ⟨.serviceAccountJson, escapedKey⟩ := by decide +kernel
  have hp : Secret.project (.ofList [("serviceAccountJSON", escapedKey)]) = .ok "p" := by
    decide +kernel
  have hkey : ServiceAccountKey.record.format.decode escapedKey =
      .ok ⟨"e", "k", ServiceAccountKey.defaultTokenUri, some "p"⟩ := by decide +kernel
  have h := Token.signs_for_project hc rfl hp hkey
  ⟨h.1, h.2.2.2⟩

end GceMachines
