import CurieBle.Basic

/-! The file's static state and `ble_core_client_handle_message` with its handlers. A handler
returns the new state and what it makes observable: writes to caller memory and subscriber
invocations; the dispatcher appends the release of the message. -/

namespace CurieBle

/-- `struct cfw_msg_rsp_sync`: the pending-request slot `sync`. -/
@[ext] structure CfwMsgRspSync where
  response : Bool
  status : BleStatus
  param : Option Ptr
  deriving DecidableEq, Repr

@[ext] structure Session where
  connected : Bool
  connHandle : UInt16
  deriving DecidableEq, Repr

structure Registry where
  gapEventCb : Option Callback
  gapEventParam : Ptr
  gattsEventCb : Option Callback
  gattsEventParam : Ptr
  deriving DecidableEq, Repr

/-- The file's static variables; `service_handle` is a pointer value. -/
structure Client where
  sync : CfwMsgRspSync
  serviceHandle : Nat
  session : Session
  registry : Registry
  deriving DecidableEq, Repr

namespace Client

/-- Static storage starts zeroed; `BLE_STATUS_SUCCESS` is the zero status, as the test
`if (sync.status)` of `ble_client_gap_set_enable_config` reads it. -/
def init : Client := ⟨⟨false, .success, none⟩, 0, ⟨false, 0⟩, ⟨none, 0, none, 0⟩⟩

/-- `sync.status = status; sync.response = 1;` -/
@[simp] def complete (c : Client) (status : BleStatus) : Client :=
  { c with sync := { c.sync with status := status, response := true } }

@[simp] def completeWith (status : BleStatus) (c : Client) : Client × List Obs :=
  (c.complete status, [])

/-- The handlers that copy a payload out through `sync.param`:
`if (p && BLE_STATUS_SUCCESS == rsp->status) *p = value;`, then complete the slot. -/
@[simp] def completeWriting (value : OutValue) (status : BleStatus) (c : Client) : Client × List Obs :=
  (c.complete status,
    match c.sync.param with
    | some p => if status = .success then [.write p value] else []
    | none => [])

/-- `if (ble_client_gap_event_cb) ble_client_gap_event_cb(event, evt, ble_client_gap_event_param);` -/
@[simp] def gapNotify (c : Client) (event : BleClientGapEvent) (msg : CfwMessage) : List Obs :=
  match c.registry.gapEventCb with
  | some cb => [.gapEvent cb event msg c.registry.gapEventParam]
  | none => []

/-- The same for `ble_client_gatts_event_cb`. -/
@[simp] def gattsNotify (c : Client) (event : BleClientGattsEvent) (msg : CfwMessage) : List Obs :=
  match c.registry.gattsEventCb with
  | some cb => [.gattsEvent cb event msg c.registry.gattsEventParam]
  | none => []

@[simp] def handleMsgIdCfwSvcAvailEvt (serviceId : ServiceId) (c : Client) : Client × List Obs :=
  if serviceId = .bleCore then (c.complete .success, []) else (c, [])

@[simp] def handleMsgIdCfwOpenSvc (clientHandle : Nat) (c : Client) : Client × List Obs :=
  ({ c.complete .success with serviceHandle := clientHandle }, [])

@[simp] def handleMsgIdBleGapWrConfRsp (status : BleStatus) : Client → Client × List Obs :=
  completeWith status

@[simp] def handleMsgIdBleGapRdBdaRsp (status : BleStatus) (bd : BleAddr) : Client → Client × List Obs :=
  completeWriting (.bda bd) status

@[simp] def handleMsgIdBleGapSmConfigRsp (status : BleStatus) : Client → Client × List Obs :=
  completeWith status

@[simp] def handleMsgIdBleGapWrAdvDataRsp (status : BleStatus) : Client → Client × List Obs :=
  completeWith status

/-- No waiting for this response, so nothing to do here. -/
@[simp] def handleMsgIdBleGapEnableAdvRsp (c : Client) : Client × List Obs := (c, [])

/-- No waiting for this response, so nothing to do here. -/
@[simp] def handleMsgIdBleGapDisableAdvRsp (c : Client) : Client × List Obs := (c, [])

@[simp] def handleMsgIdGattsAddServiceRsp (status : BleStatus) (svcHandle : UInt16) :
    Client → Client × List Obs :=
  completeWriting (.svcHandle svcHandle) status

@[simp] def handleMsgIdGattsAddCharacteristicRsp (status : BleStatus) (charH : BleGattsCharHandles) :
    Client → Client × List Obs :=
  completeWriting (.charHandles charH) status

@[simp] def handleMsgIdGattsAddDescRsp (status : BleStatus) (handle : UInt16) :
    Client → Client × List Obs :=
  completeWriting (.descHandle handle) status

@[simp] def handleMsgIdBleGattsSetAttributeValueRsp (status : BleStatus) : Client → Client × List Obs :=
  completeWith status

@[simp] def handleMsgIdBleGapConnectEvtMsg (connHandle : UInt16) (msg : CfwMessage) (c : Client) :
    Client × List Obs :=
  let c' := { c with session := ⟨true, connHandle⟩ }
  (c', c'.gapNotify .connected msg)

@[simp] def handleMsgIdBleGapDisconnectEvtMsg (msg : CfwMessage) (c : Client) : Client × List Obs :=
  let c' := { c with session := { c.session with connected := false } }
  (c', c'.gapNotify .disconnected msg)

@[simp] def handleMsgIdBleGapTimeoutEvtMsg (reason : GapTimeoutReason) (msg : CfwMessage) (c : Client) :
    Client × List Obs :=
  let c' := { c with session := { c.session with connected := false } }
  (c', match reason with
    | .adv => c'.gapNotify .advTimeout msg
    | .conn => c'.gapNotify .connTimeout msg
    | .other _ => [])

@[simp] def handleMsgIdBleGapRssiEvtMsg (msg : CfwMessage) (c : Client) : Client × List Obs :=
  (c, c.gapNotify .rssi msg)

@[simp] def handleMsgIdBleGattsWriteEvtMsg (msg : CfwMessage) (c : Client) : Client × List Obs :=
  (c, c.gattsNotify .write msg)

@[simp] def handleMsgIdBleGattsSendNotifIndRsp (status : BleStatus) : Client → Client × List Obs :=
  completeWith status

@[simp] def handleMsgIdBleGapDisconnectRsp (status : BleStatus) : Client → Client × List Obs :=
  completeWith status

@[simp] def handleMsgIdBleGapSetRssiReportRsp (status : BleStatus) : Client → Client × List Obs :=
  completeWith status

/-- `ble_core_client_handle_message`: run the handler of the message's kind (none for an unlisted
id), then `cfw_msg_free(msg)`. -/
def bleCoreClientHandleMessage (c : Client) (msg : CfwMessage) : Client × List Obs :=
  let (c', effects) := match msg with
    | .cfwSvcAvailEvt serviceId => handleMsgIdCfwSvcAvailEvt serviceId c
    | .cfwOpenService clientHandle => handleMsgIdCfwOpenSvc clientHandle c
    | .bleGapWrConfRsp status => handleMsgIdBleGapWrConfRsp status c
    | .bleGapRdBdaRsp status bd => handleMsgIdBleGapRdBdaRsp status bd c
    | .bleGapSmConfigRsp status => handleMsgIdBleGapSmConfigRsp status c
    | .bleGapWrAdvDataRsp status => handleMsgIdBleGapWrAdvDataRsp status c
    | .bleGapEnableAdvRsp _ => handleMsgIdBleGapEnableAdvRsp c
    | .bleGapDisableAdvRsp _ => handleMsgIdBleGapDisableAdvRsp c
    | .bleGattsAddServiceRsp status svcHandle => handleMsgIdGattsAddServiceRsp status svcHandle c
    | .bleGattsAddCharacteristicRsp status charH =>
        handleMsgIdGattsAddCharacteristicRsp status charH c
    | .bleGattsAddDescriptorRsp status handle => handleMsgIdGattsAddDescRsp status handle c
    | .bleGattsSetAttributeValueRsp status => handleMsgIdBleGattsSetAttributeValueRsp status c
    | .bleGattsSendNotifRsp status | .bleGattsSendIndRsp status =>
        handleMsgIdBleGattsSendNotifIndRsp status c
    | .bleGapConnectEvt connHandle => handleMsgIdBleGapConnectEvtMsg connHandle msg c
    | .bleGapDisconnectEvt => handleMsgIdBleGapDisconnectEvtMsg msg c
    | .bleGapToEvt reason => handleMsgIdBleGapTimeoutEvtMsg reason msg c
    | .bleGapRssiEvt => handleMsgIdBleGapRssiEvtMsg msg c
    | .bleGattsWriteEvt => handleMsgIdBleGattsWriteEvtMsg msg c
    | .bleGapDisconnectRsp status => handleMsgIdBleGapDisconnectRsp status c
    | .bleGapSetRssiReportRsp status => handleMsgIdBleGapSetRssiReportRsp status c
    | .unlisted _ => (c, [])
  (c', effects ++ [.free msg])

end Client

namespace CfwMessage

def carried : CfwMessage → BleStatus
  | bleGapWrConfRsp status | bleGapRdBdaRsp status _ | bleGapSmConfigRsp status
  | bleGapWrAdvDataRsp status | bleGapEnableAdvRsp status | bleGapDisableAdvRsp status
  | bleGattsAddServiceRsp status _ | bleGattsAddCharacteristicRsp status _
  | bleGattsAddDescriptorRsp status _ | bleGattsSetAttributeValueRsp status
  | bleGattsSendNotifRsp status | bleGattsSendIndRsp status | bleGapDisconnectRsp status
  | bleGapSetRssiReportRsp status => status
  | _ => .success

def outValue : CfwMessage → Option OutValue
  | bleGapRdBdaRsp _ bd => some (.bda bd)
  | bleGattsAddServiceRsp _ svcHandle => some (.svcHandle svcHandle)
  | bleGattsAddCharacteristicRsp _ charH => some (.charHandles charH)
  | bleGattsAddDescriptorRsp _ handle => some (.descHandle handle)
  | _ => none

end CfwMessage

def Session.after (session : Session) : CfwMessage → Session
  | .bleGapConnectEvt connHandle => ⟨true, connHandle⟩
  | .bleGapDisconnectEvt | .bleGapToEvt _ => { session with connected := false }
  | _ => session

namespace Client

variable (c : Client) (msg : CfwMessage)

@[simp] theorem handleMessage_param :
    (bleCoreClientHandleMessage c msg).1.sync.param = c.sync.param := by
  cases msg <;> first | rfl | (rename_i serviceId; cases serviceId <;> rfl)

@[simp] theorem handleMessage_response :
    (bleCoreClientHandleMessage c msg).1.sync.response = (msg.completes || c.sync.response) := by
  cases msg <;> first | rfl | (rename_i serviceId; cases serviceId <;> rfl)

@[simp] theorem handleMessage_status :
    (bleCoreClientHandleMessage c msg).1.sync.status =
      if msg.completes then msg.carried else c.sync.status := by
  cases msg <;> first | rfl | (rename_i serviceId; cases serviceId <;> rfl)

@[simp] theorem handleMessage_registry :
    (bleCoreClientHandleMessage c msg).1.registry = c.registry := by
  cases msg <;> first | rfl | (rename_i serviceId; cases serviceId <;> rfl)

@[simp] theorem handleMessage_session :
    (bleCoreClientHandleMessage c msg).1.session = c.session.after msg := by
  cases msg <;> first | rfl | (rename_i serviceId; cases serviceId <;> rfl)

theorem handleMessage_source : ∀ o ∈ (bleCoreClientHandleMessage c msg).2, o.source = .handler := by
  cases msg <;> simp only [bleCoreClientHandleMessage, handleMsgIdCfwSvcAvailEvt,
    handleMsgIdBleGapRdBdaRsp, handleMsgIdGattsAddServiceRsp, handleMsgIdGattsAddCharacteristicRsp,
    handleMsgIdGattsAddDescRsp, handleMsgIdBleGapConnectEvtMsg, handleMsgIdBleGapDisconnectEvtMsg,
    handleMsgIdBleGapTimeoutEvtMsg, handleMsgIdBleGapRssiEvtMsg, handleMsgIdBleGattsWriteEvtMsg,
    completeWriting, gapNotify, gattsNotify] <;> (repeat' split) <;> simp [Obs.source]

theorem mem_handleMessage_write {dst : Ptr} {value : OutValue} :
    .write dst value ∈ (bleCoreClientHandleMessage c msg).2 ↔
      c.sync.param = some dst ∧ msg.outValue = some value ∧ msg.carried = .success := by
  cases msg <;> simp [bleCoreClientHandleMessage, CfwMessage.outValue, CfwMessage.carried] <;>
    (repeat' split) <;> simp_all [eq_comm]

theorem handleMessage_of_write {dst : Ptr} {value : OutValue}
    (mem : .write dst value ∈ (bleCoreClientHandleMessage c msg).2) :
    (bleCoreClientHandleMessage c msg).2 = [.write dst value, .free msg] := by
  obtain ⟨param, copied, success⟩ := (c.mem_handleMessage_write msg).mp mem
  cases msg <;> simp_all [bleCoreClientHandleMessage, CfwMessage.outValue, CfwMessage.carried]

end Client

end CurieBle
