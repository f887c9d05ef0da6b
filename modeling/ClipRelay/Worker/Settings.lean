/-!
# Settings of the work with the worker

Durations are in milliseconds.
-/

namespace ClipRelay

structure WorkerSettings where
  healthTimeout : Nat := 10000
  /-- Uploads can be large. -/
  startTimeout : Nat := 120000
  pollTimeout : Nat := 30000
  downloadTimeout : Nat := 300000
  /-- The whole event stream, and the whole of a job that is followed to its end. -/
  streamTimeout : Nat := 600000
  connectTimeout : Nat := 10000
  /-- The pause between two polls of a job that is followed to its end. -/
  pollInterval : Nat := 2000
  /-- How many polls in a row may fail. -/
  maxPollFailures : Nat := 3
  /-- The directory of downloaded artifacts. -/
  outputDir : String := "output"
  /-- What the names of downloaded artifacts start with. -/
  outputPrefix : String := "colab"
  userAgent : String := "ChatCut-Backend/1.0"
  deriving DecidableEq

end ClipRelay
