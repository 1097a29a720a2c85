import Mathlib.Algebra.Order.Field.Rat

/-!
The sliding window behind every per-engine rate: a deque of timestamps and a
deque of values that are pushed and popped together. Times and values are
exact rationals.
-/

namespace ProductionStack.Stats

structure MovingAverageMonitor where
  slidingWindowSize : ℚ
  timestamps : List ℚ
  values : List ℚ
  deriving DecidableEq

namespace MovingAverageMonitor

def new (slidingWindowSize : ℚ) : MovingAverageMonitor := ⟨slidingWindowSize, [], []⟩

/-- The `while` loop shared by both updates: pop the two left ends together
until the oldest timestamp is inside the window. -/
def trim (cutoff : ℚ) : List ℚ → List ℚ → List ℚ × List ℚ
  | [], values => ([], values)
  | t :: ts, values =>
    if t < cutoff then trim cutoff ts values.tail else (t :: ts, values)

def update (m : MovingAverageMonitor) (timestamp value : ℚ) : MovingAverageMonitor :=
  let (timestamps, values) := trim (timestamp - m.slidingWindowSize)
    (m.timestamps ++ [timestamp]) (m.values ++ [value])
  { m with timestamps, values }

def updateNoValue (m : MovingAverageMonitor) (timestamp : ℚ) : MovingAverageMonitor :=
  let (timestamps, values) := trim (timestamp - m.slidingWindowSize) m.timestamps m.values
  { m with timestamps, values }

def getAverage (m : MovingAverageMonitor) : ℚ :=
  if m.values.isEmpty then -1 else m.values.sum / m.values.length

def getSum (m : MovingAverageMonitor) : ℚ := m.values.sum

end MovingAverageMonitor

end ProductionStack.Stats
