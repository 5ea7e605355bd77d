import GceMachines.Cli.Arguments
import GceMachines.Driver

/-!
# Results as they are shown

A result is shown as lines for people or as a JSON text over several lines.

* `responseText`, `listingText`, `instanceText`, `violationsText`: the results of the commands.
-/

namespace GceMachines.Cli

/-- A line. -/
def line (s : String) : String := s ++ "\n"

/-- A JSON value as it is shown. -/
def jsonText (j : Json) : String := line j.pretty

/-- A text filled up with blanks to a width. -/
def padded (width : Nat) (s : String) : String :=
  s ++ String.ofList (List.replicate (width - s.length) ' ')

/-- What became of a machine, after the verb for it. -/
def responseText (style : Style) (verb : String) (r : MachineResponse) : String :=
  match style with
  | .json => jsonText (MachineResponse.record.write r)
  | .human => line (verb ++ " " ++ r.nodeName ++ " (" ++ r.providerId ++ ")")

/-- A machine that is there. -/
def statusText (style : Style) (r : MachineResponse) : String :=
  match style with
  | .json => jsonText (MachineResponse.record.write r)
  | .human => line r.providerId

/-- A table of machines. -/
def listingText (style : Style) (l : MachineListing) : String :=
  match style with
  | .json => jsonText (MachineListing.record.write l)
  | .human =>
    let row (name id : String) : String := line (padded 32 name ++ " " ++ id)
    String.join (row "NAME" "ID" :: l.machineList.entries.map fun (id, name) => row name id)

/-- What stands behind the last slash. -/
def lastSegment (s : String) : String := ((Text.splitOn '/' s).getLast?).getD ""

/-- An instance. -/
def instanceText (style : Style) (i : Instance) : String :=
  match style with
  | .json => jsonText (Instance.format.write i)
  | .human =>
    String.join <|
      [line ("name:    " ++ i.name), line ("status:  " ++ i.status.getD "-"),
        line ("type:    " ++ lastSegment i.machineType),
        line ("tags:    " ++ ", ".intercalate i.tagItems)] ++
      i.networkInterfaces.map fun n => line ("nic:     " ++ n.networkIp.getD "-")

/-- The rules that a specification or a secret breaks. -/
def violationsText (style : Style) (vs : List Violation) : String :=
  let texts := vs.map Violation.message
  match style with
  | .json => jsonText (.object [("valid", .bool texts.isEmpty),
      ("violations", .array (texts.map Json.string))])
  | .human => if texts.isEmpty then line "valid" else String.join (texts.map line)

end GceMachines.Cli
