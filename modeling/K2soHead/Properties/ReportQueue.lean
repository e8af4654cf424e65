import K2soHead.Firmware.OutgoingReports
import K2soHead.Library.Runs
import Mathlib.Data.List.Perm.Basic

/-!
# Reports that had to wait

The circular buffer behaves as a plain queue of 31 reports.  Over it, the way a report takes
through `uni_hid_device.c`: it goes out, waits or is refused, and a report that once waits is
never refused again.
-/

namespace K2soHead

open Runs

namespace CircularBuffer

/-! ## A plain queue -/

/-- What is asked of the buffer. -/
inductive Op where
  | put (cid : Int16) (data : List UInt8)
  | get
  | reset

/-- What it answers. -/
inductive Answer where
  | put (error : CircularBufferError)
  | get (out : Option CircularBufferData)
  | reset

def step (b : CircularBuffer) : Op → CircularBuffer
  | .put cid data => (b.put cid data).1
  | .get => b.get.1
  | .reset => b.reset

def answer (b : CircularBuffer) : Op → List Answer
  | .put cid data => [.put (b.put cid data).2]
  | .get => [.get b.get.2]
  | .reset => [.reset]

/-- The queue it is meant to be: no cells, no indices. -/
def queueStep (xs : List CircularBufferData) : Op → List CircularBufferData
  | .put cid data =>
      if xs.length + 1 = CIRCULAR_BUFFER_SIZE ∨ CIRCULAR_BUFFER_DATA_SIZE ≤ data.length then xs
      else xs ++ [⟨cid, data⟩]
  | .get => xs.tail
  | .reset => []

def queueAnswer (xs : List CircularBufferData) : Op → List Answer
  | .put _ data =>
      [.put (if xs.length + 1 = CIRCULAR_BUFFER_SIZE then .bufferFull
        else if CIRCULAR_BUFFER_DATA_SIZE ≤ data.length then .bufferTooBig else .ok)]
  | .get => [.get xs.head?]
  | .reset => [.reset]

theorem Holds.answer_eq {b : CircularBuffer} {xs : List CircularBufferData} (h : b.Holds xs)
    (op : Op) : b.answer op = queueAnswer xs op := by
  cases op with
  | put cid data =>
    simp only [answer, queueAnswer, CircularBuffer.put, h.isFull_iff]
    split
    · rfl
    · split <;> rfl
  | get =>
    cases xs with
    | nil => rw [answer, queueAnswer, h.get_nil, List.head?_nil]
    | cons e xs => rw [answer, queueAnswer, h.get_cons.1, List.head?_cons]
  | reset => rfl

theorem Holds.step {b : CircularBuffer} {xs : List CircularBufferData} (h : b.Holds xs) (op : Op) :
    (b.step op).Holds (queueStep xs op) := by
  cases op with
  | put cid data =>
    rw [queueStep]
    rcases h.put cid data with ⟨-, hsame, hrefused⟩ | ⟨-, hput, hroom, hfits⟩
    · rw [if_pos hrefused, CircularBuffer.step, hsame]
      exact h
    · rw [if_neg (by omega)]
      exact hput
  | get =>
    cases xs with
    | nil =>
      rw [CircularBuffer.step, h.get_nil]
      exact h
    | cons e xs => exact h.get_cons.2
  | reset => exact b.holds_reset

/-- For every sequence of calls, the circular buffer answers as the plain queue does. -/
theorem buffer_refines_queue (ops : List Op) :
    outputs step answer {} ops = outputs queueStep queueAnswer [] ops := by
  have hrun : ∀ (b : CircularBuffer) (xs : List CircularBufferData), b.Holds xs →
      outputs step answer b ops = outputs queueStep queueAnswer xs ops := by
    induction ops with
    | nil => exact fun _ _ _ => rfl
    | cons op ops ih =>
      intro b xs h
      rw [outputs_cons, outputs_cons, h.answer_eq op, ih _ _ (h.step op)]
  exact hrun {} [] holds_start

end CircularBuffer

namespace OutgoingReports

/-! ## The books -/

/-- The reports of a device, accounted for. -/
structure Accounted (o : OutgoingReports) (xs : List CircularBufferData) : Prop where
  holds : o.outgoingBuffer.Holds xs
  /-- what waits can be sent, and fits in a cell -/
  valid : ∀ e ∈ xs, isValid (reportOf e) = true ∧ e.data.length < CIRCULAR_BUFFER_DATA_SIZE
  /-- nothing is lost, doubled or made up -/
  books : o.history.submitted.Perm
    (o.history.sent ++ (xs.map reportOf ++ o.history.dropped))
  /-- while something waits, an event is on its way -/
  awake : xs ≠ [] → o.waitingForCanSendNow.Nonempty

theorem reportOf_queued (r : ChannelReport) : reportOf ⟨r.cid.toInt16, r.data⟩ = r := by
  rw [reportOf, UInt16.toUInt16_toInt16]

section

variable {o : OutgoingReports} {xs : List CircularBufferData} {r : ChannelReport}

/-- What `queueReport` does with a report: it waits behind the others, or it is dropped. -/
theorem queueReport_cases (h : o.outgoingBuffer.Holds xs) (r : ChannelReport) :
    (xs.length + 1 = CIRCULAR_BUFFER_SIZE ∨ CIRCULAR_BUFFER_DATA_SIZE ≤ r.data.length) ∧
        o.queueReport r = o.recordDropped r ∨
      r.data.length < CIRCULAR_BUFFER_DATA_SIZE ∧
        ∃ b : CircularBuffer, b.Holds (xs ++ [⟨r.cid.toInt16, r.data⟩]) ∧
          o.queueReport r = { o with outgoingBuffer := b } := by
  unfold queueReport
  rcases h.put r.cid.toInt16 r.data with ⟨herror, hsame, hrefused⟩ | ⟨hok, hput, -, hfits⟩
  · refine .inl ⟨hrefused, ?_⟩
    simp only [herror, if_false, hsame]
  · refine .inr ⟨hfits, _, hput, ?_⟩
    simp only [hok, if_true]

theorem Accounted.opened (h : o.Accounted xs) {q : OutgoingReports}
    (hbuffer : q.outgoingBuffer = o.outgoingBuffer) (hhistory : q.history = o.history)
    (hwaiting : q.waitingForCanSendNow = o.waitingForCanSendNow) : q.Accounted xs where
  holds := hbuffer ▸ h.holds
  valid := h.valid
  books := hhistory ▸ h.books
  awake := hwaiting ▸ h.awake

/-- A parser's report is sent, queued or dropped. -/
theorem Accounted.submit (h : o.Accounted xs) (r : ChannelReport) (accepted : Bool) :
    ∃ ys, (o.submitReport r accepted).Accounted ys := by
  unfold submitReport sendReport
  by_cases hvalid : isValid r = true
  · rw [if_pos hvalid, if_pos hvalid]
    have hwakes : (insert r.cid o.waitingForCanSendNow).Nonempty := Finset.insert_nonempty _ _
    cases accepted with
    | true =>
      rw [if_pos rfl]
      -- sent at once, past the ones that wait
      refine ⟨xs, ⟨h.holds, h.valid, ?_, fun _ => hwakes⟩⟩
      change (o.history.submitted ++ [r]).Perm
        (o.history.sent ++ [r] ++ (xs.map reportOf ++ o.history.dropped))
      refine (h.books.append_right [r]).trans ?_
      rw [List.append_assoc, List.append_assoc o.history.sent]
      exact List.Perm.append_left _ List.perm_append_comm
    | false =>
      rcases queueReport_cases (o := o.recordSubmitted r) h.holds r with
        ⟨-, hdropped⟩ | ⟨hfits, b, hb, hqueued⟩
      · -- L2CAP refused it and the buffer is full
        refine ⟨xs, ?_⟩
        rw [if_neg Bool.false_ne_true, hdropped]
        refine ⟨h.holds, h.valid, ?_, fun _ => hwakes⟩
        change (o.history.submitted ++ [r]).Perm
          (o.history.sent ++ (xs.map reportOf ++ (o.history.dropped ++ [r])))
        rw [← List.append_assoc, ← List.append_assoc, List.append_assoc o.history.sent]
        exact h.books.append_right [r]
      · -- it waits behind the others
        refine ⟨xs ++ [⟨r.cid.toInt16, r.data⟩], ?_⟩
        rw [if_neg Bool.false_ne_true, hqueued]
        refine ⟨hb, fun e he => ?_, ?_, fun _ => hwakes⟩
        · rcases List.mem_append.mp he with hold | hnew
          · exact h.valid e hold
          · obtain rfl := List.mem_singleton.mp hnew
            rw [reportOf_queued]
            exact ⟨hvalid, hfits⟩
        · change (o.history.submitted ++ [r]).Perm
            (o.history.sent ++
              (List.map reportOf (xs ++ [⟨r.cid.toInt16, r.data⟩]) ++ o.history.dropped))
          rw [List.map_append, List.map_singleton, reportOf_queued]
          refine (h.books.append_right [r]).trans ?_
          rw [List.append_assoc, List.append_assoc, List.append_assoc]
          exact List.Perm.append_left _ (List.Perm.append_left _ List.perm_append_comm)
  · rw [if_neg hvalid, if_neg hvalid]
    exact ⟨xs, h⟩

/-- An event finds nothing, sends the oldest report, or puts it behind the others. -/
theorem sendQueuedReports_cases (hholds : o.outgoingBuffer.Holds xs)
    (hvalids : ∀ e ∈ xs, isValid (reportOf e) = true ∧ e.data.length < CIRCULAR_BUFFER_DATA_SIZE)
    (accepted : Bool) :
    xs = [] ∧ o.sendQueuedReports accepted = o ∨
      ∃ e rest, xs = e :: rest ∧
        ∃ b : CircularBuffer, b.Holds (if accepted then rest else rest ++ [e]) ∧
          o.sendQueuedReports accepted =
            { o with
              outgoingBuffer := b
              waitingForCanSendNow := insert (reportOf e).cid o.waitingForCanSendNow
              history := { o.history with
                sent := o.history.sent ++ if accepted then [reportOf e] else [] } } := by
  unfold sendQueuedReports
  cases xs with
  | nil =>
    refine .inl ⟨rfl, ?_⟩
    rw [if_pos (hholds.isEmpty_iff.mpr rfl)]
  | cons e rest =>
    have hfilled : ¬ o.outgoingBuffer.isEmpty = true := by
      rw [hholds.isEmpty_iff]
      exact List.cons_ne_nil e rest
    obtain ⟨hvalid, hfits⟩ := hvalids e List.mem_cons_self
    obtain ⟨hout, hrest⟩ := hholds.get_cons
    refine .inr ⟨e, rest, rfl, ?_⟩
    rw [if_neg hfilled]
    generalize o.outgoingBuffer.get = got at hout hrest
    obtain ⟨b, out⟩ := got
    simp only at hout hrest
    subst hout
    simp only [sendReport, hvalid, if_true]
    cases accepted with
    | true => exact ⟨b, hrest, rfl⟩
    | false =>
      have hroom := hholds.room
      rw [List.length_cons] at hroom
      rcases queueReport_cases (o := { o with outgoingBuffer := b }) hrest (reportOf e) with
        ⟨hrefused, -⟩ | ⟨-, b', hb', hqueued⟩
      · -- the cell it came from is free, so there is room
        rcases hrefused with hfull | hbig
        · omega
        · exact absurd hbig (Nat.not_le.mpr hfits)
      · refine ⟨b', ?_, ?_⟩
        · rwa [reportOf, Int16.toInt16_toUInt16] at hb'
        · rw [if_neg Bool.false_ne_true, hqueued]
          simp [requestCanSendNow]

/-- What an event leaves waiting: nothing is refused a second time. -/
def afterEvent (accepted : Bool) (xs : List CircularBufferData) : List CircularBufferData :=
  if accepted then xs.tail else xs.tail ++ xs.head?.toList

/-- What an event sends. -/
def sentByEvent (accepted : Bool) (xs : List CircularBufferData) : List ChannelReport :=
  if accepted then (xs.head?.map reportOf).toList else []

theorem Accounted.canSendNow (h : o.Accounted xs) (cid : UInt16) (accepted : Bool) :
    (o.onCanSendNow cid accepted).Accounted (afterEvent accepted xs) ∧
      (o.onCanSendNow cid accepted).history =
        { o.history with sent := o.history.sent ++ sentByEvent accepted xs } := by
  unfold onCanSendNow
  rcases sendQueuedReports_cases
    (o := { o with waitingForCanSendNow := o.waitingForCanSendNow.erase cid }) h.holds h.valid
    accepted with ⟨rfl, hsame⟩ | ⟨e, rest, rfl, b, hb, hsent⟩
  · rw [hsame]
    have hnothing : afterEvent accepted [] = [] ∧ sentByEvent accepted [] = [] := by
      cases accepted <;> exact ⟨rfl, rfl⟩
    rw [hnothing.1, hnothing.2, List.append_nil]
    exact ⟨⟨h.holds, h.valid, h.books, fun hne => absurd rfl hne⟩, rfl⟩
  · rw [hsent]
    have hwakes := Finset.insert_nonempty (reportOf e).cid (o.waitingForCanSendNow.erase cid)
    cases accepted with
    | true =>
      refine ⟨⟨hb, fun x hx => h.valid x (List.mem_cons_of_mem e hx), ?_, fun _ => hwakes⟩, rfl⟩
      change o.history.submitted.Perm
        (o.history.sent ++ [reportOf e] ++ (rest.map reportOf ++ o.history.dropped))
      rw [List.append_assoc]
      exact h.books
    | false =>
      -- refused again: it goes from the front of the queue to its back
      refine ⟨⟨hb, fun x hx => ?_, ?_, fun _ => hwakes⟩, rfl⟩
      · refine h.valid x ?_
        rcases List.mem_append.mp hx with hold | hnew
        · exact List.mem_cons_of_mem e hold
        · obtain rfl := List.mem_singleton.mp hnew
          exact List.mem_cons_self
      · change o.history.submitted.Perm
          (o.history.sent ++ [] ++ ((rest ++ [e]).map reportOf ++ o.history.dropped))
        rw [List.append_nil, List.map_append]
        refine h.books.trans (List.Perm.append_left _ (List.Perm.append_right _ ?_))
        have hback : (rest.map reportOf ++ [reportOf e]).Perm ([reportOf e] ++ rest.map reportOf) :=
          List.perm_append_comm
        exact hback.symm

theorem accounted_step (o : OutgoingReports) (e : Event) (h : ∃ xs, o.Accounted xs) :
    ∃ xs, (o.step e).Accounted xs := by
  obtain ⟨xs, h⟩ := h
  cases e with
  | controlOpened cid => exact ⟨xs, h.opened rfl rfl rfl⟩
  | interruptOpened cid => exact ⟨xs, h.opened rfl rfl rfl⟩
  | ctrl report accepted => exact h.submit _ accepted
  | intr report accepted => exact h.submit _ accepted
  | canSendNow cid accepted => exact ⟨_, (h.canSendNow cid accepted).1⟩

theorem exists_accounted (es : List Event) : ∃ xs, (run step {} es).Accounted xs := by
  have hstart : ∃ xs, ({} : OutgoingReports).Accounted xs :=
    ⟨[], CircularBuffer.holds_start, by simp, List.Perm.refl _, fun hne => absurd rfl hne⟩
  exact inv_run accounted_step hstart es

theorem Accounted.waiting_eq (h : o.Accounted xs) : o.waiting = xs.map reportOf := by
  rw [waiting, h.holds.waiting_eq]

end

/-! ## Every run -/

/-- Over every run, the reports handed over are those that went out, those that wait and those
the full buffer refused: none is lost, doubled or made up. -/
theorem reports_conserved (es : List Event) :
    let o := run step {} es
    o.history.submitted.Perm (o.history.sent ++ (o.waiting ++ o.history.dropped)) := by
  obtain ⟨xs, h⟩ := exists_accounted es
  simp only
  rw [h.waiting_eq]
  exact h.books

/-- Over every run, a new report is refused for good only if L2CAP does not take it and 31
reports wait already, or it has 128 bytes or more. -/
theorem dropped_iff_full (es : List Event) (r : ChannelReport) (accepted : Bool) :
    let o := run step {} es
    (o.submitReport r accepted).history.dropped = o.history.dropped ++
      if isValid r = true ∧ accepted = false ∧
          (31 ≤ o.waiting.length ∨ CIRCULAR_BUFFER_DATA_SIZE ≤ r.data.length) then [r] else [] := by
  obtain ⟨xs, h⟩ := exists_accounted es
  simp only
  generalize run step {} es = o at h ⊢
  have hroom : xs.length < 32 := h.holds.room
  have hsize : CIRCULAR_BUFFER_SIZE = 32 := rfl
  rw [h.waiting_eq, List.length_map]
  unfold submitReport sendReport
  by_cases hvalid : isValid r = true
  · rw [if_pos hvalid, if_pos hvalid]
    cases accepted with
    | true =>
      rw [if_pos rfl, if_neg (by simp), List.append_nil]
      rfl
    | false =>
      rw [if_neg Bool.false_ne_true]
      rcases queueReport_cases (o := o.recordSubmitted r) h.holds r with
        ⟨hrefused, hdropped⟩ | ⟨hfits, b, hb, hqueued⟩
      · rw [hdropped, if_pos ⟨hvalid, rfl, by omega⟩]
        rfl
      · have hlength := hb.room
        rw [List.length_append, List.length_singleton] at hlength
        rw [hqueued, if_neg (by omega), List.append_nil]
        rfl
  · rw [if_neg hvalid, if_neg hvalid, if_neg (fun hall => hvalid hall.1), List.append_nil]

/-- Over every run, a report that waits is sent by the next event or goes to the back: it is
never refused, and the reports behind it move up. -/
theorem waiting_report_kept (es : List Event) (cid : UInt16) (accepted : Bool) :
    let o := run step {} es
    let next := o.onCanSendNow cid accepted
    next.history.dropped = o.history.dropped ∧
      next.waiting = o.waiting.tail ++ (if accepted then [] else o.waiting.head?.toList) ∧
      next.history.sent = o.history.sent ++ (if accepted then o.waiting.head?.toList else []) := by
  obtain ⟨xs, h⟩ := exists_accounted es
  obtain ⟨hnext, hhistory⟩ := h.canSendNow cid accepted
  simp only
  rw [hhistory, hnext.waiting_eq, h.waiting_eq, List.head?_map]
  refine ⟨rfl, ?_, ?_⟩
  · cases xs <;> cases accepted <;> simp [afterEvent]
  · cases accepted <;> rfl

/-- Over every run, as long as a report waits, an event is on its way for one of the channels,
and `k` events at which L2CAP takes a report send the `k` oldest in order. -/
theorem waiting_reports_drain (es : List Event) (cids : List UInt16) :
    let o := run step {} es
    let next := run step o (cids.map fun cid => .canSendNow cid true)
    (o.waiting = [] ∨ o.waitingForCanSendNow.Nonempty) ∧
      next.waiting = o.waiting.drop cids.length ∧
      next.history.sent = o.history.sent ++ o.waiting.take cids.length := by
  obtain ⟨xs, h⟩ := exists_accounted es
  simp only
  generalize run step {} es = o at h ⊢
  have hawake : o.waiting = [] ∨ o.waitingForCanSendNow.Nonempty := by
    by_cases hxs : xs = []
    · exact .inl (by rw [h.waiting_eq, hxs, List.map_nil])
    · exact .inr (h.awake hxs)
  refine ⟨hawake, ?_⟩
  clear hawake
  induction cids generalizing o xs with
  | nil => simp
  | cons cid cids ih =>
    obtain ⟨hnext, hhistory⟩ := h.canSendNow cid true
    obtain ⟨hwaiting, hsent⟩ := ih _ _ hnext
    rw [List.map_cons, run_cons, step, hwaiting, hsent, hnext.waiting_eq, hhistory, h.waiting_eq]
    cases xs with
    | nil => simp [afterEvent, sentByEvent]
    | cons e rest => simp [afterEvent, sentByEvent]

end OutgoingReports

end K2soHead
