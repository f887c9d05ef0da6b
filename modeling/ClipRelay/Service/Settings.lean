import ClipRelay.Number.Decimal
import ClipRelay.Text.Blank
import ClipRelay.Text.Search
import ClipRelay.Worker.Settings

/-!
# Settings of the service

The settings come from environment variables. A variable that is missing, or is a number that cannot
be read, leaves its setting as it is by default.
-/

namespace ClipRelay

open Text

structure ServiceSettings where
  host : String := "127.0.0.1"
  port : Nat := 3001
  /-- The origins whose pages may call the service; `*` stands for all. -/
  corsOrigins : List String := ["*"]
  /-- The longest body of a request, in bytes. -/
  maxBodySize : Nat := 1048576
  worker : WorkerSettings := {}
  /-- The directory of trimmed clips. -/
  cacheDir : String := "output/trim_cache"
  /-- The longest time for one encode, in milliseconds. -/
  encodeTimeout : Nat := 600000
  deriving DecidableEq

/-- The values of environment variables. -/
abbrev Environment := String → Option String

namespace Environment

/-- A whole number of so many bits. -/
def number? (env : Environment) (bits : Nat) (name : String) : Option Nat :=
  (env name).bind (readNat? (Nat.pow 2 bits))

/-- A number of seconds, in milliseconds. -/
def seconds? (env : Environment) (name : String) : Option Nat :=
  (env.number? 64 name).map (· * 1000)

/-- Texts with commas between them. -/
def list? (env : Environment) (name : String) : Option (List String) :=
  (env name).map fun s => (splitOnChar ',' s.toList).map fun item => trim (String.ofList item)

end Environment

def WorkerSettings.ofEnvironment (env : Environment) : WorkerSettings :=
  let base : WorkerSettings := {}
  { base with
    healthTimeout := (env.seconds? "COLAB_HEALTH_TIMEOUT").getD base.healthTimeout
    startTimeout := (env.seconds? "COLAB_START_TIMEOUT").getD base.startTimeout
    pollTimeout := (env.seconds? "COLAB_POLL_TIMEOUT").getD base.pollTimeout
    downloadTimeout := (env.seconds? "COLAB_DOWNLOAD_TIMEOUT").getD base.downloadTimeout
    streamTimeout := (env.seconds? "COLAB_STREAM_TIMEOUT").getD base.streamTimeout
    pollInterval := (env.number? 64 "COLAB_POLL_INTERVAL_MS").getD base.pollInterval
    maxPollFailures := (env.number? 32 "COLAB_MAX_POLL_FAILURES").getD base.maxPollFailures
    outputDir := (env "OUTPUT_DIR").getD base.outputDir
    outputPrefix := (env "COLAB_OUTPUT_PREFIX").getD base.outputPrefix }

def ServiceSettings.ofEnvironment (env : Environment) : ServiceSettings :=
  let base : ServiceSettings := {}
  { host := (env "API_HOST").getD base.host
    port := (env.number? 16 "API_PORT").getD base.port
    corsOrigins := (env.list? "CORS_ORIGINS").getD base.corsOrigins
    maxBodySize := (env.number? 64 "MAX_BODY_SIZE").getD base.maxBodySize
    worker := .ofEnvironment env
    cacheDir := (env "TRIM_CACHE_DIR").getD base.cacheDir
    encodeTimeout := (env.seconds? "FFMPEG_TIMEOUT").getD base.encodeTimeout }

end ClipRelay
