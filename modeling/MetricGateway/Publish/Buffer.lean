import MetricGateway.Bytes

/-!
# Buffers

Messages are encoded into buffers that are used again: a batch takes its buffers from two pools, one
per encoding, and gives them all back when it ends. Pools keep a limited number of idle buffers, and
every buffer is emptied before it becomes idle.
-/

namespace MetricGateway.Publish

/-- The encoding that a buffer is used for. -/
inductive BufferKind where
  | compact
  | full
  deriving DecidableEq, Repr, Inhabited

/-- The name of a kind. -/
def BufferKind.display : BufferKind → String
  | .compact => "Compact"
  | .full => "Full"

/-- Idle buffers of one kind. -/
structure BufferPool where
  kind : BufferKind
  /-- How many idle buffers are kept. -/
  maxIdle : Nat
  /-- What the idle buffers hold, the one that is used next first. -/
  idle : List Bytes := []
  deriving DecidableEq, Repr

namespace BufferPool

/-- Takes an idle buffer, or a new one if there is none. -/
def acquire (p : BufferPool) : Bytes × BufferPool :=
  match p.idle with
  | [] => ([], p)
  | buffer :: idle => (buffer, { p with idle })

/-- Empties a buffer and keeps it, unless enough buffers are idle. -/
def release (p : BufferPool) (buffer : Bytes) : BufferPool :=
  let emptied := buffer.drop buffer.length
  if p.idle.length < p.maxIdle then { p with idle := emptied :: p.idle } else p

/-- The number of idle buffers. -/
def idleCount (p : BufferPool) : Nat := p.idle.length

end BufferPool

/-- One pool per kind. -/
structure BufferPools where
  compact : BufferPool
  full : BufferPool
  deriving DecidableEq, Repr

namespace BufferPools

/-- Pools that keep so many idle buffers each. -/
def ofMaxIdle (maxIdle : Nat) : BufferPools := ⟨⟨.compact, maxIdle, []⟩, ⟨.full, maxIdle, []⟩⟩

/-- The pool of a kind. -/
def get (p : BufferPools) : BufferKind → BufferPool
  | .compact => p.compact
  | .full => p.full

/-- Replaces the pool of a kind. -/
def set (p : BufferPools) (kind : BufferKind) (pool : BufferPool) : BufferPools :=
  match kind with
  | .compact => { p with compact := pool }
  | .full => { p with full := pool }

/-- The numbers of idle buffers, compact and full. -/
def idleCounts (p : BufferPools) : Nat × Nat := (p.compact.idleCount, p.full.idleCount)

end BufferPools

/-- A message in a buffer. -/
structure Message where
  kind : BufferKind
  payload : Bytes
  deriving DecidableEq, Repr

/-- Takes a buffer from its pool and writes a message into it. -/
def BufferPools.push (p : BufferPools) (kind : BufferKind) (write : Bytes → Bytes) :
    Message × BufferPools :=
  let (buffer, pool) := (p.get kind).acquire
  (⟨kind, write buffer⟩, p.set kind pool)

/-- Gives the buffers of messages back to their pools. -/
def BufferPools.releaseAll (p : BufferPools) (messages : List Message) : BufferPools :=
  messages.foldl (fun p m => p.set m.kind ((p.get m.kind).release m.payload)) p

end MetricGateway.Publish
