import GceMachines.Cli.Arguments
import GceMachines.Kubernetes.Secret
import GceMachines.Yaml.Json

/-!
# Inputs of a command

A command reads its specification first and its secret then. A specification is a YAML text, and
is handed on as JSON. A secret is a YAML text that maps keys to texts, or is in a cluster.

* `readSpec`, `readSecret`: the two inputs.
* `load`: both.
-/

namespace GceMachines.Cli

/-- An errand that may fail. -/
abbrev Step (α : Type) : Type := Errand (Except Failure α)

/-- Reads a YAML file, which messages call `what`. -/
def readYaml {α : Type} (what path : String) (parse : String → Except Yaml.Refusal α) : Step α :=
  (Errand.readText path).bind fun
    | .error problem =>
      .done (.error (.because ("read " ++ what ++ " " ++ path) (.ofMessage problem)))
    | .ok text =>
      .done ((parse text).mapError fun f =>
        .because ("parse " ++ what ++ " " ++ path) (.ofMessage f.message))

/-- **The specification of a file**, as the bytes of a JSON text. -/
def readSpec (path : String) : Step (List UInt8) :=
  (readYaml "spec" path Yaml.json).bindOk fun j => .done (.ok (Utf8.encode j.compact))

/-- **The secret of a source.** -/
def readSecret (env : String → Option String) : SecretSource → Step Secret
  | .file path =>
    (readYaml "secret" path Yaml.texts).bindOk fun texts => .done (.ok (texts.map Utf8.encode))
  | .reference text =>
    match Kubernetes.SecretName.parse? text with
    | none => .done (.error (.ofMessage
        ("--secret-ref must be NAMESPACE/NAME, got " ++ Text.quoted text)))
    | some n => n.fetch env

/-- The specification and the secret of a command. -/
def load (env : String → Option String) (i : Inputs) : Step (List UInt8 × Secret) :=
  (readSpec i.spec).bindOk fun spec =>
    (readSecret env i.secret).bindOk fun secret => .done (.ok (spec, secret))

end GceMachines.Cli
