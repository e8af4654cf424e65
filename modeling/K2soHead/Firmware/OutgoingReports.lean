import K2soHead.Firmware.CircularBuffer
import Mathlib.Data.Finset.Insert
import Mathlib.Data.Finset.Erase

/-!
# The outgoing half of `uni_hid_device.c`

Reports to a pad (rumble, LEDs) go to its control or its interrupt channel.  L2CAP takes a
report at once or refuses it, and then it waits in the device's circular buffer for the next
`L2CAP_EVENT_CAN_SEND_NOW`.  Whether L2CAP takes a report is an input of the model.

One life of a device is modelled, from `uni_hid_device_create` on: when a channel closes the
device is deleted, and what waits goes with it.
-/

namespace K2soHead

/-- A report and the channel it is for. -/
structure ChannelReport where
  cid : UInt16
  data : List UInt8
  deriving DecidableEq

/-- What became of the reports.  No code reads it. -/
structure OutgoingHistory where
  /-- reports the parsers handed over -/
  submitted : List ChannelReport := []
  /-- reports L2CAP took -/
  sent : List ChannelReport := []
  /-- reports the circular buffer refused -/
  dropped : List ChannelReport := []

/-- The fields of `uni_hid_device_t` behind its outgoing reports, and L2CAP's flags. -/
structure OutgoingReports where
  controlCid : UInt16 := 0
  interruptCid : UInt16 := 0
  outgoingBuffer : CircularBuffer := {}
  /-- the channels with `waiting_for_can_send_now` set -/
  waitingForCanSendNow : Finset UInt16 := ∅
  history : OutgoingHistory := {}

namespace OutgoingReports

def recordSubmitted (r : ChannelReport) (o : OutgoingReports) : OutgoingReports :=
  { o with history := { o.history with submitted := o.history.submitted ++ [r] } }

def recordSent (r : ChannelReport) (o : OutgoingReports) : OutgoingReports :=
  { o with history := { o.history with sent := o.history.sent ++ [r] } }

def recordDropped (r : ChannelReport) (o : OutgoingReports) : OutgoingReports :=
  { o with history := { o.history with dropped := o.history.dropped ++ [r] } }

/-- `l2cap_request_can_send_now_event`. -/
def requestCanSendNow (cid : UInt16) (o : OutgoingReports) : OutgoingReports :=
  { o with waitingForCanSendNow := insert cid o.waitingForCanSendNow }

/-- The checks at the head of `uni_hid_device_send_report`. -/
def isValid (r : ChannelReport) : Bool := r.cid ≠ 0 ∧ r.data ≠ []

/-- A report L2CAP refused. -/
def queueReport (r : ChannelReport) (o : OutgoingReports) : OutgoingReports :=
  let put := o.outgoingBuffer.put r.cid.toInt16 r.data
  let o := { o with outgoingBuffer := put.1 }
  if put.2 = .ok then o else o.recordDropped r

/-- `uni_hid_device_send_report`; `accepted` is L2CAP's answer. -/
def sendReport (r : ChannelReport) (accepted : Bool) (o : OutgoingReports) : OutgoingReports :=
  if isValid r then
    -- the event is asked for even if the report went out: another one may be waiting
    (if accepted then o.recordSent r else o.queueReport r).requestCanSendNow r.cid
  else o

/-- A parser sends a report through `uni_hid_device_send_intr_report` or `.._ctrl_report`. -/
def submitReport (r : ChannelReport) (accepted : Bool) (o : OutgoingReports) : OutgoingReports :=
  (if isValid r then o.recordSubmitted r else o).sendReport r accepted

def sendIntrReport (report : List UInt8) (accepted : Bool) (o : OutgoingReports) :
    OutgoingReports :=
  o.submitReport ⟨o.interruptCid, report⟩ accepted

def sendCtrlReport (report : List UInt8) (accepted : Bool) (o : OutgoingReports) :
    OutgoingReports :=
  o.submitReport ⟨o.controlCid, report⟩ accepted

/-- The report in a cell of the buffer; its `cid` went through an `int16_t`. -/
def reportOf (e : CircularBufferData) : ChannelReport := ⟨e.cid.toUInt16, e.data⟩

/-- `uni_hid_device_send_queued_reports`: one report for each event. -/
def sendQueuedReports (accepted : Bool) (o : OutgoingReports) : OutgoingReports :=
  if o.outgoingBuffer.isEmpty then o
  else
    match o.outgoingBuffer.get with
    | (_, none) => o
    | (b, some e) => { o with outgoingBuffer := b }.sendReport (reportOf e) accepted

/-- The handler of `L2CAP_EVENT_CAN_SEND_NOW`, which clears the flag of its channel first. -/
def onCanSendNow (cid : UInt16) (accepted : Bool) (o : OutgoingReports) : OutgoingReports :=
  { o with waitingForCanSendNow := o.waitingForCanSendNow.erase cid }.sendQueuedReports accepted

/-- What can happen to a device's outgoing reports. -/
inductive Event where
  | controlOpened (cid : UInt16)
  | interruptOpened (cid : UInt16)
  | ctrl (report : List UInt8) (accepted : Bool)
  | intr (report : List UInt8) (accepted : Bool)
  | canSendNow (cid : UInt16) (accepted : Bool)

def step (o : OutgoingReports) : Event → OutgoingReports
  | .controlOpened cid => { o with controlCid := cid }
  | .interruptOpened cid => { o with interruptCid := cid }
  | .ctrl report accepted => o.sendCtrlReport report accepted
  | .intr report accepted => o.sendIntrReport report accepted
  | .canSendNow cid accepted => o.onCanSendNow cid accepted

/-- The reports that wait, oldest first. -/
def waiting (o : OutgoingReports) : List ChannelReport := o.outgoingBuffer.waiting.map reportOf

end OutgoingReports

end K2soHead
