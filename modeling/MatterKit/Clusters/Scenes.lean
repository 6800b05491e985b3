import MatterKit.Clusters.SceneTable
import MatterKit.Lib.Runs

/-!
# Scenes Management

`clusters/scenes.rs`, the commands: adding, viewing, removing, storing, recalling and copying scenes. Each
comes to a status, which is answered unless the command went to a group; recalling is answered with a
status alone.
-/

namespace MatterKit.Scenes

open Lib

/-- The command of a request, decoded.
Source: `clusters/generated/scenes_management.rs`, the `…Fields` structures. -/
inductive Command
  | addScene (groupId : GroupId) (sceneId : UInt8) (transitionTime : UInt32) (sceneName : String)
      (extensionFieldSetStructs : List UInt8)
  | viewScene (groupId : GroupId) (sceneId : UInt8)
  | removeScene (groupId : GroupId) (sceneId : UInt8)
  | removeAllScenes (groupId : GroupId)
  | storeScene (groupId : GroupId) (sceneId : UInt8)
  | recallScene (groupId : GroupId) (sceneId : UInt8) (transitionTime : Option (Option UInt32))
  | getSceneMembership (groupId : GroupId)
  | copyScene (mode : UInt8) (groupIdentifierFrom : GroupId) (sceneIdentifierFrom : UInt8)
      (groupIdentifierTo : GroupId) (sceneIdentifierTo : UInt8)

/-- Source: `CopyModeBitmap::COPY_ALL_SCENES`. -/
def copyAllScenes : UInt8 := 0x01

/-- The response to a command.
Source: `clusters/generated/scenes_management.rs`, the `…ResponseFields` structures. -/
inductive Response
  | addScene (status : Im.Status) (groupId : GroupId) (sceneId : UInt8)
  | viewScene (status : Im.Status) (groupId : GroupId) (sceneId : UInt8)
      (transitionTime : Option UInt32) (sceneName : Option String)
      (extensionFieldSetStructs : Option (List UInt8))
  | removeScene (status : Im.Status) (groupId : GroupId) (sceneId : UInt8)
  | removeAllScenes (status : Im.Status) (groupId : GroupId)
  | storeScene (status : Im.Status) (groupId : GroupId) (sceneId : UInt8)
  | getSceneMembership (status : Im.Status) (capacity : UInt8) (groupId : GroupId)
      (sceneList : Option (List UInt8))
  | copyScene (status : Im.Status) (groupIdentifierFrom : GroupId) (sceneIdentifierFrom : UInt8)

/-- The status in a response. -/
def Response.status : Response → Im.Status
  | addScene status .. | viewScene status .. | removeScene status .. | removeAllScenes status ..
  | storeScene status .. | getSceneMembership status .. | copyScene status .. => status

/-- A request, and what there is around it when it is served: the command or why there is none, the
groups the endpoint is in, which octets are valid field sets, what the endpoint's other clusters capture,
and whether there is room for the response. -/
structure Request where
  fabric : Option FabricIndex
  groupcast : Bool
  command : Except Im.Status Command
  isGroupMember : FabricIndex → GroupId → Bool
  validSets : List UInt8 → Bool
  captured : Option (List UInt8)
  written : Bool

/-- Source: `Scenes::group_known`. -/
def Request.groupKnown (r : Request) (fabric : FabricIndex) (group : GroupId) : Bool :=
  decide (group.val = 0) || r.isGroupMember fabric group

/-- Source: `Scenes::invoke`, the end of each command that has a response. -/
def Request.answer (r : Request) (response : Response) : Except Im.Status (Option Response) :=
  if r.groupcast then .ok none
  else if r.written then .ok (some response)
  else .error .failure

/-- What becomes of a request: the status the command came to, the answer, what was applied to the
endpoint, and the table. -/
structure Outcome (N EFS F : ℕ) where
  status : Im.Status
  answer : Except Im.Status (Option Response)
  applied : Option (List UInt8 × UInt32)
  table : SceneTable N EFS F

namespace SceneTable

variable {N EFS F : ℕ} (t : SceneTable N EFS F)

/-- Source: `Scenes::invoke`, `ADD_SCENE`. -/
def addScene (r : Request) (fabric : FabricIndex) (group : GroupId) (scene : UInt8)
    (transition : UInt32) (name : String) (sets : List UInt8) : Im.Status × SceneTable N EFS F :=
  if r.groupKnown fabric group = false then (.invalidCommand, t)
  else if sceneMax < scene ∨ transitionMax < transition then (.constraintError, t)
  else if r.validSets sets = false then (.invalidCommand, t)
  else t.put ⟨fabric, group, scene⟩ name transition sets

/-- Source: `Scenes::invoke`, `VIEW_SCENE`. -/
def viewScene (r : Request) (fabric : FabricIndex) (group : GroupId) (scene : UInt8) :
    Im.Status × Option (Entry EFS) :=
  if r.groupKnown fabric group = false then (.invalidCommand, none)
  else
    match t.find ⟨fabric, group, scene⟩ with
    | none => (.notFound, none)
    | some entry => (.success, some entry)

/-- Source: `Scenes::invoke`, `REMOVE_SCENE`. -/
def removeScene (r : Request) (fabric : FabricIndex) (group : GroupId) (scene : UInt8) :
    Im.Status × SceneTable N EFS F :=
  if r.groupKnown fabric group = false then (.invalidCommand, t)
  else if t.contains ⟨fabric, group, scene⟩ = false then (.notFound, t)
  else
    (.success, { t with
      entries := t.entries.eraseFirst fun e => decide (e.toSceneKey = ⟨fabric, group, scene⟩) })

/-- Source: `Scenes::invoke`, `REMOVE_ALL_SCENES`. -/
def removeAllScenes (r : Request) (fabric : FabricIndex) (group : GroupId) :
    Im.Status × SceneTable N EFS F :=
  if r.groupKnown fabric group then
    (.success, t.retainKeys fun k => !(decide (k.fabric = fabric) && decide (k.group = group)))
  else (.invalidCommand, t)

/-- Puts what was captured into the table.
Source: `Scenes::store`, `match existing`. -/
def storeCaptured (key : SceneKey) (captured : List UInt8) : Im.Status × SceneTable N EFS F :=
  if t.contains key then
    match BoundedVec.ofList? EFS captured with
    | none => (.resourceExhausted, t)
    | some fields =>
      (.success, { t with
        entries := t.entries.update (fun e => decide (e.toSceneKey = key)) fun e =>
          { e with fields := fields } })
  else t.put key "" 0 captured

/-- Source: `Scenes::store`. -/
def store (r : Request) (fabric : FabricIndex) (group : GroupId) (scene : UInt8) :
    Im.Status × SceneTable N EFS F :=
  if r.groupKnown fabric group = false then (.invalidCommand, t)
  else if sceneMax < scene then (.constraintError, t)
  else
    match r.captured with
    | none => (.resourceExhausted, t)
    | some captured =>
      let stored := t.storeCaptured ⟨fabric, group, scene⟩ captured
      if stored.1 = .success then (stored.1, stored.2.note ⟨fabric, group, scene⟩) else stored

/-- Source: `Scenes::invoke`, `RECALL_SCENE`: the entry that is recalled. -/
def recallScene (r : Request) (fabric : FabricIndex) (group : GroupId) (scene : UInt8) :
    Except Im.Status (Entry EFS) :=
  if r.groupKnown fabric group = false then .error .invalidCommand
  else
    match t.find ⟨fabric, group, scene⟩ with
    | none => .error .notFound
    | some entry => .ok entry

/-- Puts entries into the table under other keys, until one does not go in.
Source: `Scenes::copy`, the loop over `source`. -/
def putEntries (target : Entry EFS → SceneKey) :
    SceneTable N EFS F → List (Entry EFS) → Im.Status × SceneTable N EFS F
  | t, [] => (.success, t)
  | t, e :: es =>
    let stored := t.put (target e) e.name e.transition e.fields.toList
    if stored.1 = .success then putEntries target stored.2 es else stored

/-- The entries that are copied.
Source: `Scenes::copy`, `source`. -/
def copySource (fabric : FabricIndex) (mode : UInt8) (groupFrom : GroupId) (sceneFrom : UInt8) :
    List (Entry EFS) :=
  t.entries.toList.filter fun e =>
    decide (e.fabric = fabric) && decide (e.group = groupFrom) &&
      (containsFlag mode copyAllScenes || decide (e.scene = sceneFrom))

/-- Where an entry is copied to.
Source: `Scenes::copy`, `scene`. -/
def copyTarget (fabric : FabricIndex) (mode : UInt8) (groupTo : GroupId) (sceneTo : UInt8)
    (e : Entry EFS) : SceneKey :=
  ⟨fabric, groupTo, if containsFlag mode copyAllScenes then e.scene else sceneTo⟩

/-- Source: `Scenes::copy`. -/
def copy (r : Request) (fabric : FabricIndex) (mode : UInt8) (groupFrom : GroupId)
    (sceneFrom : UInt8) (groupTo : GroupId) (sceneTo : UInt8) : Im.Status × SceneTable N EFS F :=
  if r.groupKnown fabric groupFrom = false ∨ r.groupKnown fabric groupTo = false then
    (.invalidCommand, t)
  else if containsFlag mode copyAllScenes = false ∧
      t.contains ⟨fabric, groupFrom, sceneFrom⟩ = false then (.notFound, t)
  else putEntries (copyTarget fabric mode groupTo sceneTo) t
    (t.copySource fabric mode groupFrom sceneFrom)

/-- Source: `Scenes::invoke`, `GET_SCENE_MEMBERSHIP`. -/
def getSceneMembership (r : Request) (fabric : FabricIndex) (group : GroupId) : Response :=
  if r.groupKnown fabric group then
    .getSceneMembership .success (t.capacity fabric) group
      (some ((t.entries.toList.filter fun e =>
        decide (e.fabric = fabric) && decide (e.group = group)).map (·.scene)))
  else .getSceneMembership .invalidCommand (t.capacity fabric) group none

/-- Source: `Scenes::invoke`, once there is a fabric and a command. -/
def run (copyScene : Bool) (r : Request) (fabric : FabricIndex) : Command → Outcome N EFS F
  | .addScene group scene transition name sets =>
    let (status, table) := t.addScene r fabric group scene transition name sets
    ⟨status, r.answer (.addScene status group scene), none, table⟩
  | .viewScene group scene =>
    let (status, found) := t.viewScene r fabric group scene
    ⟨status, r.answer (.viewScene status group scene (found.map (·.transition))
      (found.map (·.name)) (found.map (·.fields.toList))), none, t⟩
  | .removeScene group scene =>
    let (status, table) := t.removeScene r fabric group scene
    ⟨status, r.answer (.removeScene status group scene), none, table⟩
  | .removeAllScenes group =>
    let (status, table) := t.removeAllScenes r fabric group
    ⟨status, r.answer (.removeAllScenes status group), none, table⟩
  | .storeScene group scene =>
    let (status, table) := t.store r fabric group scene
    ⟨status, r.answer (.storeScene status group scene), none, table⟩
  | .recallScene group scene transition =>
    match t.recallScene r fabric group scene with
    | .error status => ⟨status, .error status, none, t⟩
    | .ok entry =>
      ⟨.success, .ok none, some (entry.fields.toList, transition.join.getD entry.transition),
        t.note ⟨fabric, group, scene⟩⟩
  | .getSceneMembership group =>
    let response := t.getSceneMembership r fabric group
    ⟨response.status, r.answer response, none, t⟩
  | .copyScene mode groupFrom sceneFrom groupTo sceneTo =>
    if copyScene then
      let (status, table) := t.copy r fabric mode groupFrom sceneFrom groupTo sceneTo
      ⟨status, r.answer (.copyScene status groupFrom sceneFrom), none, table⟩
    else ⟨.unsupportedCommand, .error .unsupportedCommand, none, t⟩

/-- Serves a request. `copyScene` says whether the cluster has the command.
Source: `Scenes::invoke`. -/
def invoke (copyScene : Bool) (r : Request) : Outcome N EFS F :=
  match r.fabric with
  | none => ⟨.unsupportedAccess, .error .unsupportedAccess, none, t⟩
  | some fabric =>
    match r.command with
    | .error status => ⟨status, .error status, none, t⟩
    | .ok command => t.run copyScene r fabric command

end SceneTable

end MatterKit.Scenes
