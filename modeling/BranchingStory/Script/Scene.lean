import BranchingStory.Script.Reading

/-!
Scenes of a document, and scenes of several documents as one table. A document is a mapping from the
names of scenes to their entries; a scene may be defined only once.
-/

namespace BranchingStory.Script

/-- The instructions of the entries of a scene from line `line` on. -/
def readEntries (file scene : String) (line : Nat) : List Json → Except Fault (List Instruction)
  | [] => .ok []
  | entry :: rest =>
    match readInstruction ⟨file, line, scene⟩ entry with
    | .error fault => .error fault
    | .ok instruction =>
      match readEntries file scene (line + 1) rest with
      | .error fault => .error fault
      | .ok instructions => .ok (instruction :: instructions)

/-- The scene of a name and what is written under it. -/
def readScene (file name : String) : Json → Except Fault Scene
  | .list entries =>
    match readEntries file name 1 entries with
    | .error fault => .error fault
    | .ok instructions => .ok ⟨name, instructions⟩
  | _ => .error (.script (.sceneNotAList name) ⟨file, 0, name⟩)

/-- The scenes of the fields of a document, up to the first that is none. -/
def readFields (file : String) : List (String × Json) → Except Fault (List Scene)
  | [] => .ok []
  | (name, body) :: rest =>
    match readScene file name body with
    | .error fault => .error fault
    | .ok scene =>
      match readFields file rest with
      | .error fault => .error fault
      | .ok scenes => .ok (scene :: scenes)

/-- The scenes of a document. -/
def readScenes (file : String) : Json → Except Fault (List Scene)
  | .object fields => readFields file fields
  | _ => .error (.script .notAMapping ⟨file, 0, ""⟩)

/-- Adds the scenes of a file to a table in which no name may stand twice. -/
def merge (file : String) (table : List Scene) : List Scene → Except Fault (List Scene)
  | [] => .ok table
  | scene :: rest =>
    if table.any (fun known => known.name == scene.name) then
      .error (.script (.duplicateScene scene.name) ⟨file, 0, scene.name⟩)
    else merge file (table ++ [scene]) rest

end BranchingStory.Script
