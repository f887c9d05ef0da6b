import ClipRelay.Digest.Sha256
import ClipRelay.Path
import ClipRelay.Text.Case
import ClipRelay.TrimWindow

/-!
# Names of cached clips

The name of a trimmed clip is `stem_hash_start_end.ext`: the stem and, if it is one of the containers
that are kept, the extension of the source, the first eight digits of the SHA-256 of its path, and
both bounds with two places.
-/

namespace ClipRelay

namespace CacheName

/-- Containers that are kept; any other clip becomes `mp4`. -/
def keptExtensions : List String := ["mp4", "mov", "m4v", "mkv"]

/-- The extension of a clip that is cut out of `source`. -/
def extensionOf (source : String) : String :=
  match (Path.extension? source).map Text.lower with
  | some e => if keptExtensions.contains e then e else "mp4"
  | none => "mp4"

def stemOf (source : String) : String := (Path.fileStem? source).getD "clip"

/-- The first eight digits of the hash of a path. -/
def hashOf (source : String) : String :=
  Sha256.hex ((Sha256.digest (Text.bytesOf source)).take 4)

end CacheName

/-- The name of the clip that a window cuts out of a source, which is given by its absolute path. -/
def cacheName (source : String) (w : TrimWindow) : String :=
  CacheName.stemOf source ++ "_" ++ CacheName.hashOf source ++ "_" ++ w.start.fixed 2 ++ "_"
    ++ w.stop.fixed 2 ++ "." ++ CacheName.extensionOf source

end ClipRelay
