import SessionPool.Pool.Checkout
import SessionPool.Pool.Closing
import SessionPool.Pool.Opening
import SessionPool.Pool.Return

/-!
# Going on after a wait

An agent that waits goes on where it stopped: with the answer it was waiting for, with another look
at the pool, or with the end of its call.
-/

namespace SessionPool.Site

open Pool (Agent Phase)

/-- Go on with what an agent was waiting for. -/
def proceed (site : Site) (agent : Agent) : Phase → Turn
  | .prewarming made metadata attempt => site.prewarmConnected agent made metadata attempt
  | .connecting checkout metadata attempt => site.checkoutConnected checkout metadata attempt
  | .borrowProbe checkout connection => site.borrowProbed checkout connection
  | .waiting checkout _ => site.seek checkout
  | .returnProbe connection => site.returnProbed connection
  | .sweeping sweep connection pending => site.sweepProbed agent sweep connection pending
  | .resting => site.wake
  | .joining thenDrop => site.drain thenDrop

/-- Let an agent go on if it can. -/
def resume (site : Site) (agent : Agent) : Turn :=
  match site.pool.task? agent with
  | some task =>
      if site.pool.isReady site.now task then
        (site.withPool (·.unpark agent)).proceed agent task.phase
      else (site, none)
  | none => (site, none)

end SessionPool.Site
