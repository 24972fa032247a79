import MemoryReclaim.Fault

/-!
# The host

What the service asks of the system it runs on.  Every operation may change the state
of the host, so readings and the clock may differ from one use to the next; nothing
else is assumed about a host.
-/

namespace MemoryReclaim

inductive WriteMode
  | truncate
  | append
  deriving DecidableEq

structure Host (σ : Type) where
  available : σ → Option Kilobytes × σ
  total : σ → Option Kilobytes × σ
  /-- Ends a process; the result is the memory that this is thought to free. -/
  kill : Pid → σ → Kilobytes × σ
  read : Path → σ → Except Fault String × σ
  write : Path → String → WriteMode → σ → Except Fault Unit × σ
  now : σ → Seconds × σ

/-- Names and accounts of applications. -/
structure Directory where
  name? : Pid → Uid → Option String
  account : Uid → AccountId

namespace Directory

/-- Each account owns this many user ids. -/
def uidsPerAccount : Int := 200000

def accountOf (uid : Uid) : AccountId := uid.tdiv uidsPerAccount

def nameless : Directory := ⟨fun _ _ => none, accountOf⟩

end Directory

/-- Whether the best-effort write of a debug trigger went through. -/
def Host.echo {σ : Type} (host : Host σ) (path : Path) (content : String) (state : σ) :
    Bool × σ :=
  let (result, state) := host.write path content .truncate state
  (result.isOk, state)

end MemoryReclaim
