import MatterKit.Clusters.GeneralCommissioning
import MatterKit.Sc.Pase

/-!
# The ICD Management cluster

`clusters/icd_management.rs`: the clients that have asked to be told when the device is awake, each with
the key its Check-In messages are encrypted with, and the one counter that all of those messages draw
from. `RegisterClient` answers with where the counter stands, and `nextCheckInCounter` advances it before
it hands it out, so that the first message after a registration is ahead of what was answered.

No command moves the counter (`counter_invoke`).
-/

namespace MatterKit.Clusters

open Lib Machine Tlv Dm Im Sc

/-! ## Clients -/

/-- Source: `ClientType`. -/
inductive ClientType
  | permanent
  | ephemeral
  deriving DecidableEq

/-- Source: `ClientType::from_value`. -/
def ClientType.fromValue (value : UInt64) : Except Status ClientType :=
  if value = 0 then .ok .permanent
  else if value = 1 then .ok .ephemeral
  else .error .constraintError

/-- Source: `Registration`. -/
structure MonitoringRegistration where
  checkInNodeId : NodeId
  monitoredSubject : UInt64
  clientType : ClientType
  fabricIndex : FabricIndex
  key : SymmetricKey
  deriving DecidableEq

/-- `N` clients across every fabric, at most `clientsPerFabric` of them of one; `promise` is the device's
answer to how long it can stay awake.
Source: `IcdManagement`, `Config::ICD_CLIENTS_PER_FABRIC` and
`StayActive::promise`. -/
structure IcdManagement (N : ℕ) where
  clients : BoundedVec MonitoringRegistration N
  counter : UInt32
  features : UInt32
  clientsPerFabric : ℕ
  promise : UInt32 → UInt32

namespace IcdManagement

/-- Source: `REGISTER_CLIENT`. -/
def registerClientCommand : CommandId := 0x00

/-- Source: `REGISTER_CLIENT_RESPONSE`. -/
def registerClientResponseId : CommandId := 0x01

/-- Source: `UNREGISTER_CLIENT`. -/
def unregisterClientCommand : CommandId := 0x02

/-- Source: `STAY_ACTIVE_REQUEST`. -/
def stayActiveRequestCommand : CommandId := 0x03

/-- Source: `STAY_ACTIVE_RESPONSE`. -/
def stayActiveResponseId : CommandId := 0x04

/-- Source: `Feature::CHECK_IN_PROTOCOL_SUPPORT`. -/
def checkInProtocolSupport : UInt32 := 1

/-- Source: `Feature::LONG_IDLE_TIME_SUPPORT`. -/
def longIdleTimeSupport : UInt32 := 4

/-! ## Fields -/

/-- Source: `RegisterFields`. -/
structure RegisterFields where
  checkInNodeId : NodeId
  monitoredSubject : UInt64
  key : SymmetricKey
  verificationKey : Option SymmetricKey
  clientType : ClientType
  deriving DecidableEq

/-- Source: `decode_register`, its variables. -/
structure RegisterVariables where
  checkInNodeId : Option NodeId := none
  monitoredSubject : Option UInt64 := none
  key : Option SymmetricKey := none
  verificationKey : Option SymmetricKey := none
  clientType : Option ClientType := none

/-- Source: `key_field`. -/
def keyField (bytes : List UInt8) : Except Status SymmetricKey :=
  if bytes.length = 16 then .ok (.ofList bytes) else .error .constraintError

/-- A key that is a member of a command's fields. -/
def decodeKey (e : Element) : Decoding SymmetricKey := do
  let bytes ← orStatus (ofResult (octetsOf e)) .constraintError
  ofResult (keyField bytes)

/-- Source: `decode_register`, the body of its loop. -/
def decodeRegisterField (e : Element) (f : RegisterVariables) : Decoding RegisterVariables :=
  match e.tag.context? with
  | some 0 => do
    let value ← orStatus (ofResult e.unsigned) .constraintError
    pure { f with checkInNodeId := some ⟨value⟩ }
  | some 1 => do
    let value ← orStatus (ofResult e.unsigned) .constraintError
    pure { f with monitoredSubject := some value }
  | some 2 => do
    let key ← decodeKey e
    pure { f with key := some key }
  | some 3 => do
    let key ← decodeKey e
    pure { f with verificationKey := some key }
  | some 4 => do
    let value ← orStatus (ofResult e.unsigned) .constraintError
    let clientType ← ofResult (ClientType.fromValue value)
    pure { f with clientType := some clientType }
  | _ => do
    orStatus (skipValue e) .invalidAction
    pure f

/-- Reads the members of a command's fields, a later one of the same tag in place of an earlier.
Source: `decode_register`, `decode_unregister` and `decode_stay_active`, up to the end of their loops. -/
def decodeFields {β : Type} (step : Element → β → Decoding β) (init : β) (fields : List UInt8) :
    Except Status β :=
  let decode : Decoding β := do
    let e ← firstElement
    require (e.value.container? = some .struct) .invalidAction
    members step init
  (exec decode (TlvReader.newIn fields .struct)).1

/-- Source: `decode_register`. -/
def decodeRegister (fields : List UInt8) : Except Status RegisterFields := do
  let f ← decodeFields decodeRegisterField {} fields
  let checkInNodeId ← Lib.okOr f.checkInNodeId .invalidCommand
  let monitoredSubject ← Lib.okOr f.monitoredSubject .invalidCommand
  let key ← Lib.okOr f.key .invalidCommand
  let clientType ← Lib.okOr f.clientType .invalidCommand
  pure ⟨checkInNodeId, monitoredSubject, key, f.verificationKey, clientType⟩

/-- Source: `decode_unregister`, the body of its loop. -/
def decodeUnregisterField (e : Element) (f : Option NodeId × Option SymmetricKey) :
    Decoding (Option NodeId × Option SymmetricKey) :=
  match e.tag.context? with
  | some 0 => do
    let value ← orStatus (ofResult e.unsigned) .constraintError
    pure (some ⟨value⟩, f.2)
  | some 1 => do
    let key ← decodeKey e
    pure (f.1, some key)
  | _ => do
    orStatus (skipValue e) .invalidAction
    pure f

/-- Source: `decode_unregister`. -/
def decodeUnregister (fields : List UInt8) : Except Status (NodeId × Option SymmetricKey) := do
  let f ← decodeFields decodeUnregisterField (none, none) fields
  let node ← Lib.okOr f.1 .invalidCommand
  pure (node, f.2)

/-- Source: `decode_stay_active`, the body of its loop. -/
def decodeStayActiveField (e : Element) (duration : Option UInt32) : Decoding (Option UInt32) :=
  match e.tag.context? with
  | some 0 => do
    let value ← orStatus (ofResult e.unsigned) .constraintError
    let value ← orStatus (ofResult (narrow32 value)) .constraintError
    pure (some value)
  | _ => do
    orStatus (skipValue e) .invalidAction
    pure duration

/-- Source: `decode_stay_active`. -/
def decodeStayActive (fields : List UInt8) : Except Status UInt32 := do
  let duration ← decodeFields decodeStayActiveField none fields
  Lib.okOr duration .invalidCommand

/-! ## The counter -/

section cluster

variable {N : ℕ} (s : IcdManagement N)

/-- Source: `IcdManagement::next_check_in_counter`. -/
def nextCheckInCounter : UInt32 × IcdManagement N :=
  (s.counter + 1, { s with counter := s.counter + 1 })

/-- Source: `IcdManagement::restore_counter`. -/
def restoreCounter (value : UInt32) : IcdManagement N := { s with counter := value }

/-! ## Commands -/

/-- Source: `IcdManagement::remove_fabric`, and `on_lifecycle`. -/
def removeFabric (fabric : FabricIndex) : IcdManagement N :=
  { s with clients := s.clients.retain fun c => decide (c.fabricIndex ≠ fabric) }

/-- Whether an entry is a node's on a fabric.
Source: the `position` of `IcdManagement::register` and `unregister`. -/
def isEntry (fabric : FabricIndex) (node : NodeId) (c : MonitoringRegistration) : Bool :=
  decide (c.fabricIndex = fabric ∧ c.checkInNodeId = node)

/-- Source: `IcdManagement::register`. -/
def register (f : RegisterFields) (fabric : FabricIndex) (administrator : Bool) :
    Except Status (IcdManagement N) :=
  match s.clients.toList.find? (isEntry fabric f.checkInNodeId) with
  | some entry =>
    if administrator ∨ f.verificationKey = some entry.key then
      .ok { s with clients := s.clients.update (isEntry fabric f.checkInNodeId) fun c =>
        { c with monitoredSubject := f.monitoredSubject, clientType := f.clientType, key := f.key } }
    else .error .failure
  | none => do
    let used := s.clients.toList.countP fun c => decide (c.fabricIndex = fabric)
    ensure (used < s.clientsPerFabric) .resourceExhausted
    let clients ← Lib.okOr
      (s.clients.push ⟨f.checkInNodeId, f.monitoredSubject, f.clientType, fabric, f.key⟩)
      .resourceExhausted
    pure { s with clients := clients }

/-- Source: `IcdManagement::unregister`. -/
def unregister (node : NodeId) (verificationKey : Option SymmetricKey) (fabric : FabricIndex)
    (administrator : Bool) : Except Status (IcdManagement N) := do
  let entry ← Lib.okOr (s.clients.toList.find? (isEntry fabric node)) .notFound
  ensure (administrator ∨ verificationKey = some entry.key) .failure
  pure { s with clients := s.clients.eraseFirst (isEntry fabric node) }

/-- Source: `IcdManagement::is_administrator`. -/
def isAdministrator (ctx : InteractionContext) : Bool :=
  ctx.privilege.any fun p => p.grants .administer

/-- Registers the client that a command names; the counter is what the response carries.
Source: `IcdManagement::invoke`, `REGISTER_CLIENT` up to the response. -/
def registerClient (fields : Option (List UInt8)) (ctx : InteractionContext) :
    Except Status (UInt32 × IcdManagement N) := do
  ensure (s.features &&& checkInProtocolSupport ≠ 0) .unsupportedCommand
  let fabric ← Lib.okOr ctx.fabricIndex .unsupportedAccess
  let fields ← Lib.okOr fields .invalidCommand
  let request ← decodeRegister fields
  let s ← s.register request fabric (isAdministrator ctx)
  pure (s.counter, s)

/-- Source: `IcdManagement::invoke`, `UNREGISTER_CLIENT`. -/
def unregisterClient (fields : Option (List UInt8)) (ctx : InteractionContext) :
    Except Status (IcdManagement N) := do
  ensure (s.features &&& checkInProtocolSupport ≠ 0) .unsupportedCommand
  let fabric ← Lib.okOr ctx.fabricIndex .unsupportedAccess
  let fields ← Lib.okOr fields .invalidCommand
  let (node, verificationKey) ← decodeUnregister fields
  s.unregister node verificationKey fabric (isAdministrator ctx)

/-- Source: `IcdManagement::invoke`, `STAY_ACTIVE_REQUEST` up to the response. -/
def stayActiveRequest (fields : Option (List UInt8)) : Except Status UInt32 := do
  ensure (s.features &&& longIdleTimeSupport ≠ 0) .unsupportedCommand
  let fields ← Lib.okOr fields .invalidCommand
  let requested ← decodeStayActive fields
  pure (s.promise requested)

/-- A response of one number. -/
def numberResponse (id : CommandId) (value : UInt32) : Response where
  id := id
  write tag := do
    start tag .struct
    unsigned (.context 0) value.toUInt64
    endContainer

/-- Runs a command, up to the response.
Source: `IcdManagement::invoke`. -/
def run (command : CommandId) (fields : Option (List UInt8)) (ctx : InteractionContext) :
    Except Status (Option Response × IcdManagement N) := do
  if command = registerClientCommand then
    let (counter, s) ← s.registerClient fields ctx
    pure (some (numberResponse registerClientResponseId counter), s)
  else if command = unregisterClientCommand then
    let s ← s.unregisterClient fields ctx
    pure (none, s)
  else if command = stayActiveRequestCommand then
    let promised ← s.stayActiveRequest fields
    pure (some (numberResponse stayActiveResponseId promised), s)
  else throw .unsupportedCommand

/-- A response that cannot be written leaves what the command has done.
Source: `IcdManagement::invoke`. -/
def invoke (command : CommandId) (fields : Option (List UInt8)) (ctx : InteractionContext)
    (w : TlvWriter) (tag : Tag) :
    (Except StatusIb (Option CommandId) × TlvWriter) × IcdManagement N :=
  match s.run command fields ctx with
  | .error status => ((.error (.new status), w), s)
  | .ok (none, s) => ((.ok none, w), s)
  | .ok (some response, s) =>
    match exec (response.write tag) w with
    | (.ok _, w) => ((.ok (some response.id), w), s)
    | (.error _, w) => ((.error (.new .failure), w), s)

end cluster

/-! ## What moves the counter -/

variable {N : ℕ} {s s' : IcdManagement N}

lemma counter_register {f : RegisterFields} {fabric : FabricIndex} {administrator : Bool}
    (h : s.register f fabric administrator = .ok s') : s'.counter = s.counter := by
  unfold register at h
  split at h
  · split_ifs at h
    cases h
    rfl
  · obtain ⟨_, _, h⟩ := bind_eq_ok.mp h
    obtain ⟨clients, _, hdone⟩ := bind_eq_ok.mp h
    cases hdone
    rfl

variable {fields : Option (List UInt8)} {ctx : InteractionContext}

/-- A client is answered with where the counter stands. -/
lemma registerClient_eq_ok {start : UInt32} (h : s.registerClient fields ctx = .ok (start, s')) :
    start = s.counter ∧ s'.counter = s.counter := by
  obtain ⟨_, _, h⟩ := bind_eq_ok.mp h
  obtain ⟨fabric, _, h⟩ := bind_eq_ok.mp h
  obtain ⟨octets, _, h⟩ := bind_eq_ok.mp h
  obtain ⟨request, _, h⟩ := bind_eq_ok.mp h
  obtain ⟨registered, hregister, hdone⟩ := bind_eq_ok.mp h
  cases hdone
  exact ⟨counter_register hregister, counter_register hregister⟩

lemma counter_unregisterClient (h : s.unregisterClient fields ctx = .ok s') : s'.counter = s.counter := by
  obtain ⟨_, _, h⟩ := bind_eq_ok.mp h
  obtain ⟨fabric, _, h⟩ := bind_eq_ok.mp h
  obtain ⟨octets, _, h⟩ := bind_eq_ok.mp h
  obtain ⟨⟨node, verificationKey⟩, _, h⟩ := bind_eq_ok.mp h
  obtain ⟨entry, _, h⟩ := bind_eq_ok.mp h
  obtain ⟨_, _, hdone⟩ := bind_eq_ok.mp h
  cases hdone
  rfl

lemma counter_run {command : CommandId} {response : Option Response}
    (h : s.run command fields ctx = .ok (response, s')) : s'.counter = s.counter := by
  unfold run at h
  split_ifs at h
  · obtain ⟨⟨start, registered⟩, hregister, hdone⟩ := bind_eq_ok.mp h
    cases hdone
    exact (registerClient_eq_ok hregister).2
  · obtain ⟨removed, hunregister, hdone⟩ := bind_eq_ok.mp h
    cases hdone
    exact counter_unregisterClient hunregister
  · obtain ⟨promised, _, hdone⟩ := bind_eq_ok.mp h
    cases hdone
    rfl

/-- No command moves the counter, whether or not its response can be written. -/
lemma counter_invoke (command : CommandId) (fields : Option (List UInt8)) (ctx : InteractionContext)
    (w : TlvWriter) (tag : Tag) : (s.invoke command fields ctx w tag).2.counter = s.counter := by
  unfold invoke
  split
  · rfl
  · rename_i hrun
    exact counter_run hrun
  · rename_i hrun
    split
    · exact counter_run hrun
    · exact counter_run hrun

end IcdManagement

end MatterKit.Clusters
