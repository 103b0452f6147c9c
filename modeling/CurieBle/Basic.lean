import Mathlib.Data.List.Basic

/-! Data model of `ble_client.c`: the status codes, the payloads the dispatcher copies into
caller memory, the inbound messages it classifies, the requests the public operations hand to
the messaging substrate, and what a run of the client makes observable. -/

namespace CurieBle

abbrev Ptr := Nat

abbrev Callback := Nat

/-- `BleStatus`. The enum is declared in a header outside `src/`; the file names four of its
members, and a response can carry any other member through unchanged. -/
inductive BleStatus where
  | success
  | error
  | timeout
  | wrongState
  | other (code : Nat)
  deriving DecidableEq, Repr

/-- `service_id` of a service-available event, compared with the header constant
`BLE_CORE_SERVICE_ID`. -/
inductive ServiceId where
  | bleCore
  | other (id : Nat)
  deriving DecidableEq, Repr

/-- `evt->timeout.reason`: `BLE_SVC_GAP_TO_ADV`, `BLE_SVC_GAP_TO_CONN` or another code. -/
inductive GapTimeoutReason where
  | adv
  | conn
  | other (code : Nat)
  deriving DecidableEq, Repr

structure BleAddr where
  type : UInt8
  addr : List UInt8
  deriving DecidableEq, Repr

/-- Modelled from the spec: `struct ble_gatts_char_handles` is declared outside `src/`; the spec
names its value and client-configuration handles. -/
structure BleGattsCharHandles where
  valueHandle : UInt16
  cccdHandle : UInt16
  deriving DecidableEq, Repr

/-- The inbound messages, one constructor per `MSG_ID_*` case of
`ble_core_client_handle_message`, with the fields the handlers read; `unlisted` is any other id. -/
inductive CfwMessage where
  | cfwSvcAvailEvt (serviceId : ServiceId)
  | cfwOpenService (clientHandle : Nat)
  | bleGapWrConfRsp (status : BleStatus)
  | bleGapRdBdaRsp (status : BleStatus) (bd : BleAddr)
  | bleGapSmConfigRsp (status : BleStatus)
  | bleGapWrAdvDataRsp (status : BleStatus)
  | bleGapEnableAdvRsp (status : BleStatus)
  | bleGapDisableAdvRsp (status : BleStatus)
  | bleGattsAddServiceRsp (status : BleStatus) (svcHandle : UInt16)
  | bleGattsAddCharacteristicRsp (status : BleStatus) (charH : BleGattsCharHandles)
  | bleGattsAddDescriptorRsp (status : BleStatus) (handle : UInt16)
  | bleGattsSetAttributeValueRsp (status : BleStatus)
  | bleGattsSendNotifRsp (status : BleStatus)
  | bleGattsSendIndRsp (status : BleStatus)
  | bleGapConnectEvt (connHandle : UInt16)
  | bleGapDisconnectEvt
  | bleGapToEvt (reason : GapTimeoutReason)
  | bleGapRssiEvt
  | bleGattsWriteEvt
  | bleGapDisconnectRsp (status : BleStatus)
  | bleGapSetRssiReportRsp (status : BleStatus)
  | unlisted (id : Nat)
  deriving DecidableEq, Repr

namespace CfwMessage

/-- The kinds the substrate may deliver unprompted: events, and ids the dispatcher does not list. -/
def unsolicited : CfwMessage → Bool
  | cfwSvcAvailEvt _ | bleGapConnectEvt _ | bleGapDisconnectEvt | bleGapToEvt _
  | bleGapRssiEvt | bleGattsWriteEvt | unlisted _ => true
  | _ => false

/-- The messages whose handler sets `sync.response`. -/
def completes : CfwMessage → Bool
  | cfwSvcAvailEvt serviceId => decide (serviceId = .bleCore)
  | cfwOpenService _ | bleGapWrConfRsp _ | bleGapRdBdaRsp _ _ | bleGapSmConfigRsp _
  | bleGapWrAdvDataRsp _ | bleGattsAddServiceRsp _ _ | bleGattsAddCharacteristicRsp _ _
  | bleGattsAddDescriptorRsp _ _ | bleGattsSetAttributeValueRsp _ | bleGattsSendNotifRsp _
  | bleGattsSendIndRsp _ | bleGapDisconnectRsp _ | bleGapSetRssiReportRsp _ => true
  | _ => false

def isAdvertisingRsp : CfwMessage → Bool
  | bleGapEnableAdvRsp _ | bleGapDisableAdvRsp _ => true
  | _ => false

end CfwMessage

structure BleGapConnectionParams where
  intervalMin : UInt16
  intervalMax : UInt16
  slaveLatency : UInt16
  linkSupTo : UInt16
  deriving DecidableEq, Repr

instance reprInt8 : Repr Int8 := ⟨fun x prec => reprPrec x.toInt prec⟩

/-- `struct ble_wr_config` as `ble_client_gap_set_enable_config` fills it; `p_bda` is always
`NULL`. -/
structure BleWrConfig where
  pName : Ptr
  appearance : UInt16
  txPower : Int8
  peripheralConnParams : BleGapConnectionParams
  centralConnParams : BleGapConnectionParams
  deriving DecidableEq, Repr

/-- `ble_gap_adv_param_t` as `ble_client_gap_start_advertise` fills it; `p_peer_bda` is `NULL` and
`options` is the header constant `BLE_GAP_OPT_ADV_DEFAULT`. -/
structure BleGapAdvParam where
  timeout : UInt16
  intervalMin : UInt16
  intervalMax : UInt16
  type : UInt8
  filterPolicy : UInt8
  deriving DecidableEq, Repr

structure BleGapAdvRspData where
  pData : Ptr
  len : UInt8
  deriving DecidableEq, Repr

structure BleGattsIndParams where
  valHandle : UInt16
  len : UInt16
  pData : Ptr
  offset : UInt16
  deriving DecidableEq, Repr

/-- Requests addressed to the active connection; `conn_handle` is read when they are submitted. -/
inductive ConnRequest where
  | bleGattsSendInd (params : BleGattsIndParams)
  | bleGattsSendNotif (params : BleGattsIndParams)
  | bleGapDisconnect (reason : UInt8)
  | bleGapSetRssiReport (enable : Bool)
  deriving DecidableEq, Repr

/-- The requests the public operations submit, by the substrate call that submits them.
`bleGapSmConfig` carries the key size; its options and IO capabilities are the header constants
`BLE_GAP_BONDING` and `BLE_GAP_IO_NO_INPUT_NO_OUTPUT`. -/
inductive Request where
  /-- `cfw_register_svc_available(client_handle, BLE_CORE_SERVICE_ID, NULL)` -/
  | cfwRegisterSvcAvailable
  /-- `cfw_open_service(client_handle, BLE_CORE_SERVICE_ID, NULL)` -/
  | cfwOpenService
  | bleGapSetEnableConfig (config : BleWrConfig)
  | bleGapSmConfig (keySize : UInt8)
  | bleGapReadBda
  | bleGapWrAdvData (data : BleGapAdvRspData)
  | bleGapStartAdvertise (params : BleGapAdvParam)
  | bleGapStopAdvertise
  | bleGattsAddService (uuid : Ptr) (type : UInt8)
  | bleGattsAddIncludedSvc (primarySvcHandle includedSvcHandle : UInt16)
  | bleGattsAddCharacteristic (svcHandle : UInt16) (charData : Ptr)
  | bleGattsAddDescriptor (desc : Ptr)
  | bleGattsSetAttributeValue (valueHandle len : UInt16) (pValue : Ptr) (offset : UInt16)
  | onConn (connHandle : UInt16) (request : ConnRequest)
  deriving DecidableEq, Repr

namespace Request

/-- The message kind that answers a request. The reply to `ble_gatts_add_included_svc` has an id
that the dispatcher's switch does not list. -/
def answeredBy : Request → CfwMessage → Bool
  | cfwRegisterSvcAvailable, .cfwSvcAvailEvt _ => true
  | cfwOpenService, .cfwOpenService _ => true
  | bleGapSetEnableConfig _, .bleGapWrConfRsp _ => true
  | bleGapSmConfig _, .bleGapSmConfigRsp _ => true
  | bleGapReadBda, .bleGapRdBdaRsp _ _ => true
  | bleGapWrAdvData _, .bleGapWrAdvDataRsp _ => true
  | bleGapStartAdvertise _, .bleGapEnableAdvRsp _ => true
  | bleGapStopAdvertise, .bleGapDisableAdvRsp _ => true
  | bleGattsAddService _ _, .bleGattsAddServiceRsp _ _ => true
  | bleGattsAddIncludedSvc _ _, .unlisted _ => true
  | bleGattsAddCharacteristic _ _, .bleGattsAddCharacteristicRsp _ _ => true
  | bleGattsAddDescriptor _, .bleGattsAddDescriptorRsp _ _ => true
  | bleGattsSetAttributeValue _ _ _ _, .bleGattsSetAttributeValueRsp _ => true
  | onConn _ (.bleGattsSendInd _), .bleGattsSendIndRsp _ => true
  | onConn _ (.bleGattsSendNotif _), .bleGattsSendNotifRsp _ => true
  | onConn _ (.bleGapDisconnect _), .bleGapDisconnectRsp _ => true
  | onConn _ (.bleGapSetRssiReport _), .bleGapSetRssiReportRsp _ => true
  | _, _ => false

def isAdvertising : Request → Bool
  | bleGapStartAdvertise _ | bleGapStopAdvertise => true
  | _ => false

end Request

inductive OutValue where
  | bda (bd : BleAddr)
  | svcHandle (handle : UInt16)
  | charHandles (handles : BleGattsCharHandles)
  | descHandle (handle : UInt16)
  deriving DecidableEq, Repr

inductive BleClientGapEvent where
  | connected
  | disconnected
  | advTimeout
  | connTimeout
  | rssi
  deriving DecidableEq, Repr

inductive BleClientGattsEvent where
  | write
  deriving DecidableEq, Repr

/-- The blocking public operations with their arguments; a `NULL` destination is `none`. -/
inductive Op where
  | init (gapEventCb : Option Callback) (gapEventParam : Ptr)
      (gattsEventCb : Option Callback) (gattsEventParam : Ptr)
  | gapSetEnableConfig (name : Ptr) (appearance : UInt16) (txPower : Int8)
  | gapGetBda (pBda : Option Ptr)
  | gapWrAdvData (advData : Ptr) (advDataLen : UInt8)
  | gattsAddService (uuid : Ptr) (type : UInt8) (svcHandle : Option Ptr)
  | gattsIncludeService (primarySvcHandle includedSvcHandle : UInt16)
  | gattsAddCharacteristic (svcHandle : UInt16) (charData : Ptr) (handles : Option Ptr)
  | gattsAddDescriptor (svcHandle : UInt16) (desc : Ptr) (handle : Option Ptr)
  | gattsSetAttributeValue (valueHandle len : UInt16) (pValue : Ptr) (offset : UInt16)
  | gattsSendNotifInd (valueHandle len : UInt16) (pValue : Ptr) (offset : UInt16)
      (indication : Bool)
  | gapDisconnect (reason : UInt8)
  | gapSetRssiReport (enable : Bool)
  deriving DecidableEq, Repr

/-- The handle a request is passed to. `ble_client_init` passes its two requests to
`client_handle`, the value `cfw_init` returned, which no other code of the file reads and the
model does not keep; every other request goes to `service_handle`, by the value it holds. -/
inductive Addr where
  | clientHandle
  | serviceHandle (handle : Nat)
  deriving DecidableEq, Repr

def Request.addr (serviceHandle : Nat) : Request → Addr
  | .cfwRegisterSvcAvailable | .cfwOpenService => .clientHandle
  | _ => .serviceHandle serviceHandle

/-- What a run makes observable, in order. `submit` records the handle the request is passed to;
the tickets of `submit` and `dispatch` are bookkeeping of the substrate, which knows which request
a reply answers, and no code of the file reads them. -/
inductive Obs where
  | call (op : Op)
  | arm
  | setParam (param : Option Ptr)
  | submit (addr : Addr) (request : Request) (result : BleStatus) (ticket : Option Nat)
  | dispatch (msg : CfwMessage) (answers : Option Nat)
  | write (dst : Ptr) (value : OutValue)
  | gapEvent (cb : Callback) (event : BleClientGapEvent) (msg : CfwMessage) (param : Ptr)
  | gattsEvent (cb : Callback) (event : BleClientGattsEvent) (msg : CfwMessage) (param : Ptr)
  | free (msg : CfwMessage)
  | ret (status : BleStatus)
  | advertiseRet (status : BleStatus)
  deriving DecidableEq, Repr

/-- Who makes an observation; `slot` is the caller writing `sync`. -/
inductive Source where
  | caller
  | slot
  | substrate
  | dispatch
  | handler
  deriving DecidableEq, Repr

def Obs.source : Obs → Source
  | .call _ | .ret _ | .advertiseRet _ => .caller
  | .arm | .setParam _ => .slot
  | .submit .. => .substrate
  | .dispatch .. => .dispatch
  | .write .. | .gapEvent .. | .gattsEvent .. | .free _ => .handler

end CurieBle
