import CurieBle.Dispatcher

/-! The public operations of `ble_client.c` as statement programs over the shared state. Each
statement reads or writes shared state once, so `CurieBle.System` runs them one at a time and
the dispatcher may run between any two of them. The macro `wait_for_condition`, with the test
`if (status != BLE_STATUS_SUCCESS) return status;` that follows each of its uses, is
`waitForCondition`. -/

namespace CurieBle

inductive Stmt where
  /-- `if (!connected) return BLE_STATUS_WRONG_STATE;` -/
  | checkConnected
  /-- `sync.response = 0;` -/
  | armResponse
  /-- `sync.param = (void *)param;` -/
  | setParam (param : Option Ptr)
  /-- `if (ble_...(service_handle, ...)) return BLE_STATUS_ERROR;`, and the same for
  `cfw_register_svc_available(client_handle, ...)` in `ble_client_init`. -/
  | submit (request : Request)
  /-- The same for a request addressed to `conn_handle`. -/
  | submitOnConn (request : ConnRequest)
  /-- `cfw_open_service(...);`, whose result `ble_client_init` does not test. -/
  | submitIgnoringResult (request : Request)
  /-- `unsigned timeout = get_uptime_32k() + 32768; status = BLE_STATUS_SUCCESS;` -/
  | startWait
  /-- `while (!(sync.response))` -/
  | pollResponse
  /-- `if (get_uptime_32k() > timeout) { status = BLE_STATUS_TIMEOUT; break; }`, and the return
  of that status. -/
  | checkDeadline
  /-- `delay_until = get_uptime_32k() + 32;` -/
  | startDelay
  /-- `while (get_uptime_32k() < delay_until);` -/
  | spinDelay
  /-- `if (sync.status) return sync.status;` -/
  | returnIfStatus
  /-- `return sync.status;` -/
  | returnStatus
  | setGapEventCb (cb : Option Callback)
  | setGapEventParam (param : Ptr)
  | setGattsEventCb (cb : Option Callback)
  | setGattsEventParam (param : Ptr)
  deriving DecidableEq, Repr

def unit1_25Ms : Nat := 1250

def unit10Ms : Nat := 10000

/-- `MSEC_TO_UNITS(TIME, RESOLUTION)`. -/
def msecToUnits (time resolution : Nat) : Nat := time * 1000 / resolution

def minConnInterval : UInt16 := .ofNat (msecToUnits 80 unit1_25Ms)

def maxConnInterval : UInt16 := .ofNat (msecToUnits 150 unit1_25Ms)

def slaveLatency : UInt16 := 0

def connSupTimeout : UInt16 := .ofNat (msecToUnits 6000 unit10Ms)

def appUltraFastAdvInterval : UInt16 := 32

def bleGapAdvTypeAdvInd : UInt8 := 0

def bleGapAdvFpAny : UInt8 := 0

def connParams : BleGapConnectionParams :=
  ⟨minConnInterval, maxConnInterval, slaveLatency, connSupTimeout⟩

/-- `wait_for_condition(sync.response, status); if (status != BLE_STATUS_SUCCESS) return status;` -/
def waitForCondition : List Stmt := [.startWait, .pollResponse]

def exchange (request : Request) : List Stmt := .armResponse :: .submit request :: waitForCondition

def exchangeInto (param : Option Ptr) (request : Request) : List Stmt :=
  .armResponse :: .setParam param :: .submit request :: waitForCondition

def connExchange (request : ConnRequest) : List Stmt :=
  .checkConnected :: .armResponse :: .submitOnConn request :: waitForCondition

def bleClientInit (gapEventCb : Option Callback) (gapEventParam : Ptr)
    (gattsEventCb : Option Callback) (gattsEventParam : Ptr) : List Stmt :=
  exchange .cfwRegisterSvcAvailable ++
  [.startDelay, .spinDelay, .armResponse, .submitIgnoringResult .cfwOpenService] ++
  waitForCondition ++
  [.setGapEventCb gapEventCb, .setGapEventParam gapEventParam, .setGattsEventCb gattsEventCb,
    .setGattsEventParam gattsEventParam, .returnStatus]

def bleClientGapSetEnableConfig (name : Ptr) (appearance : UInt16) (txPower : Int8) :
    List Stmt :=
  exchange (.bleGapSetEnableConfig ⟨name, appearance, txPower, connParams, connParams⟩) ++
  .returnIfStatus :: exchange (.bleGapSmConfig 16) ++ [.returnStatus]

def bleClientGapGetBda (pBda : Option Ptr) : List Stmt :=
  exchangeInto pBda .bleGapReadBda ++ [.returnStatus]

def bleClientGapWrAdvData (advData : Ptr) (advDataLen : UInt8) : List Stmt :=
  exchange (.bleGapWrAdvData ⟨advData, advDataLen⟩) ++ [.returnStatus]

def bleClientGattsAddService (uuid : Ptr) (type : UInt8) (svcHandle : Option Ptr) : List Stmt :=
  exchangeInto svcHandle (.bleGattsAddService uuid type) ++ [.returnStatus]

def bleClientGattsIncludeService (primarySvcHandle includedSvcHandle : UInt16) : List Stmt :=
  exchange (.bleGattsAddIncludedSvc primarySvcHandle includedSvcHandle) ++ [.returnStatus]

def bleClientGattsAddCharacteristic (svcHandle : UInt16) (charData : Ptr)
    (handles : Option Ptr) : List Stmt :=
  exchangeInto handles (.bleGattsAddCharacteristic svcHandle charData) ++ [.returnStatus]

/-- The `svc_handle` argument is not passed on. -/
def bleClientGattsAddDescriptor (_svcHandle : UInt16) (desc : Ptr) (handle : Option Ptr) :
    List Stmt :=
  exchangeInto handle (.bleGattsAddDescriptor desc) ++ [.returnStatus]

def bleClientGattsSetAttributeValue (valueHandle len : UInt16) (pValue : Ptr) (offset : UInt16) :
    List Stmt :=
  exchange (.bleGattsSetAttributeValue valueHandle len pValue offset) ++ [.returnStatus]

def bleClientGattsSendNotifInd (valueHandle len : UInt16) (pValue : Ptr) (offset : UInt16)
    (indication : Bool) : List Stmt :=
  let indParams : BleGattsIndParams := ⟨valueHandle, len, pValue, offset⟩
  connExchange (if indication then .bleGattsSendInd indParams else .bleGattsSendNotif indParams) ++
    [.returnStatus]

def bleClientGapDisconnect (reason : UInt8) : List Stmt :=
  connExchange (.bleGapDisconnect reason) ++ [.returnStatus]

def bleClientGapSetRssiReport (enable : Bool) : List Stmt :=
  connExchange (.bleGapSetRssiReport enable) ++ [.returnStatus]

def Op.body : Op → List Stmt
  | .init gapEventCb gapEventParam gattsEventCb gattsEventParam =>
      bleClientInit gapEventCb gapEventParam gattsEventCb gattsEventParam
  | .gapSetEnableConfig name appearance txPower =>
      bleClientGapSetEnableConfig name appearance txPower
  | .gapGetBda pBda => bleClientGapGetBda pBda
  | .gapWrAdvData advData advDataLen => bleClientGapWrAdvData advData advDataLen
  | .gattsAddService uuid type svcHandle => bleClientGattsAddService uuid type svcHandle
  | .gattsIncludeService primarySvcHandle includedSvcHandle =>
      bleClientGattsIncludeService primarySvcHandle includedSvcHandle
  | .gattsAddCharacteristic svcHandle charData handles =>
      bleClientGattsAddCharacteristic svcHandle charData handles
  | .gattsAddDescriptor svcHandle desc handle => bleClientGattsAddDescriptor svcHandle desc handle
  | .gattsSetAttributeValue valueHandle len pValue offset =>
      bleClientGattsSetAttributeValue valueHandle len pValue offset
  | .gattsSendNotifInd valueHandle len pValue offset indication =>
      bleClientGattsSendNotifInd valueHandle len pValue offset indication
  | .gapDisconnect reason => bleClientGapDisconnect reason
  | .gapSetRssiReport enable => bleClientGapSetRssiReport enable

def bleClientGapStartAdvertise (timeout : UInt16) : Request :=
  .bleGapStartAdvertise
    ⟨timeout, appUltraFastAdvInterval, appUltraFastAdvInterval, bleGapAdvTypeAdvInd, bleGapAdvFpAny⟩

def bleClientGapStopAdvertise : Request := .bleGapStopAdvertise

end CurieBle
