import Aivtuber.AssetStore.Store
import Aivtuber.Scheduler.Plan

/-!
# Viseme tracks

`VisemeTrack` and `LocalVisemeStore` of `crates/runtime/src/cached_playback.rs`.  A cue of
a track may be placed anywhere up to the end of the track, the end included.
-/

open Aivtuber.Text

namespace Aivtuber

inductive CachedPlaybackError where
  | assetStore (error : AssetStoreError)
  | invalidEvent (message : String)
  | missingIntent
  | noPlayableTracks (assetId : String)
  | staleAssetIdentity (assetId expected actual : String)
  | scheduler (rejection : Rejection)
  | invalidVisemeReference (reference : String)
  | invalidVisemeTrack (message : String)
  | visemeDurationMismatch (assetId : String) (speechDurationMs visemeDurationMs : Nat)
  | io (path source : String)
  | json (path message : String)
deriving DecidableEq, Repr

def visemeTrackSchemaVersion : String := "0.1.0"

structure VisemeCue where
  atMs : Nat
  viseme : String
  weight : Float64
deriving DecidableEq

structure VisemeTrack where
  schemaVersion : String
  durationMs : Nat
  cues : List VisemeCue
deriving DecidableEq

/-- The message about the first cue that is not valid, from an index on. -/
def cuesIssue? (durationMs index : Nat) (previous : Option Nat) : List VisemeCue → Option String
  | [] => none
  | cue :: cues =>
    let field := "cues[" ++ toString index ++ "]"
    if isBlank cue.viseme then some (field ++ ".viseme must not be empty")
    else if !cue.weight.inRange 0 1 then some (field ++ ".weight must be in 0..=1")
    else if previous.any fun atMs ↦ cue.atMs < atMs then
      some "viseme cues must be monotonic non-decreasing"
    else if durationMs < cue.atMs then some (field ++ ".at_ms exceeds duration_ms")
    else cuesIssue? durationMs (index + 1) (some cue.atMs) cues

def VisemeTrack.validate (track : VisemeTrack) : Except CachedPlaybackError Unit :=
  if track.schemaVersion ≠ visemeTrackSchemaVersion then
    .error (.invalidVisemeTrack ("expected schema_version " ++ visemeTrackSchemaVersion ++
      ", got " ++ track.schemaVersion))
  else
    match cuesIssue? track.durationMs 0 none track.cues with
    | some message => .error (.invalidVisemeTrack message)
    | none => .ok ()

/-- Tracks in files under a root, which `read` reads and parses. -/
structure LocalVisemeStore where
  root : String
  read : String → Except CachedPlaybackError VisemeTrack

def LocalVisemeStore.resolve (store : LocalVisemeStore) (reference : String) :
    Except CachedPlaybackError VisemeTrack :=
  let reference := trim reference
  if reference = "" || containsText "://".toList reference.toList then
    .error (.invalidVisemeReference reference)
  else if "/".toList.isPrefixOf reference.toList || (utf8 reference)[1]? = some (byte ':') ||
      (reference.toList.splitOn '/').contains "..".toList then
    .error (.invalidVisemeReference reference)
  else
    match store.read (store.root ++ "/" ++ reference) with
    | .error error => .error error
    | .ok track =>
      match track.validate with
      | .error error => .error error
      | .ok () => .ok track

end Aivtuber
