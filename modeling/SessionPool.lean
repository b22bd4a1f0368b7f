import SessionPool.Proofs.Capacity.NoLeak
import SessionPool.Proofs.Deadline.Diary
import SessionPool.Proofs.Disposal.Once
import SessionPool.Proofs.Floor.Lowest
import SessionPool.Proofs.Ownership.Exclusive
import SessionPool.Proofs.Shutdown.Final
import SessionPool.Proofs.Wakeups
import SessionPool.Script.Life
import SessionPool.Script.Run
import SessionPool.Proofs.Custody.Basic
import SessionPool.Proofs.Custody.Operations
import SessionPool.Proofs.Custody.Run
import SessionPool.Proofs.Outcome.Turns
import SessionPool.Proofs.Outcome.Refusal
import SessionPool.Proofs.Custody.Quarantine
import SessionPool.Proofs.Custody.Broken
import SessionPool.Proofs.Custody.Ledger
import SessionPool.Proofs.Custody.OpenSessions
import SessionPool.Proofs.Order.Joinings
import SessionPool.Proofs.Order.OldestFirst
import SessionPool.Proofs.Deadline.Timeouts
import SessionPool.Proofs.Duty.Run
import SessionPool.Proofs.Shutdown.Teardown
import SessionPool.Proofs.Metrics.Journal
import SessionPool.Proofs.Strict.Run
import SessionPool.Proofs.Alone.Basic
import SessionPool.Proofs.Alone.Checkout
import SessionPool.Proofs.Alone.FirstLive
import SessionPool.Proofs.Alone.Sweep
import SessionPool.Proofs.Idle.Stays
import SessionPool.Proofs.Checker.Rounds
import SessionPool.Proofs.Checker.Timetable
import SessionPool.Proofs.Checker.Schedule
import SessionPool.Proofs.Handles.OneShot
import SessionPool.Proofs.Returns.Decision
import SessionPool.Proofs.Sweeping.Partition
import SessionPool.Proofs.Twin.Agreement
import SessionPool.Proofs.Handles.Probes
import SessionPool.Proofs.Alone.Rotation
import SessionPool.Proofs.Direct.Bookkeeping
import SessionPool.Proofs.Direct.Liveness
