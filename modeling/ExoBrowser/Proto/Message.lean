import ExoBrowser.Proto.Basic

/-!
# Messages

The message enumeration of the link, its tags and the enumerations in its fields.
-/

set_option autoImplicit false

namespace ExoBrowser.Proto

abbrev Bytes32 := { bytes : Bytes // bytes.length = 32 }

namespace Tag

@[match_pattern] abbrev hello : UInt32 := 0x01
@[match_pattern] abbrev welcome : UInt32 := 0x02
@[match_pattern] abbrev resize : UInt32 := 0x03
@[match_pattern] abbrev nav : UInt32 := 0x04
@[match_pattern] abbrev heartbeat : UInt32 := 0x05
@[match_pattern] abbrev navAction : UInt32 := 0x06
@[match_pattern] abbrev stop : UInt32 := 0x07
@[match_pattern] abbrev inputPointer : UInt32 := 0x10
@[match_pattern] abbrev inputKey : UInt32 := 0x11
@[match_pattern] abbrev inputScroll : UInt32 := 0x12
@[match_pattern] abbrev inputButton : UInt32 := 0x13
@[match_pattern] abbrev setZoom : UInt32 := 0x14
@[match_pattern] abbrev cursorState : UInt32 := 0x30
@[match_pattern] abbrev loadState : UInt32 := 0x31
@[match_pattern] abbrev title : UInt32 := 0x32
@[match_pattern] abbrev urlChanged : UInt32 := 0x33
@[match_pattern] abbrev rawFrame : UInt32 := 0x40
@[match_pattern] abbrev subframe : UInt32 := 0x41
@[match_pattern] abbrev tileData : UInt32 := 0x42
@[match_pattern] abbrev tileRef : UInt32 := 0x43
@[match_pattern] abbrev audioFrame : UInt32 := 0x48
@[match_pattern] abbrev videoChunk : UInt32 := 0x49
@[match_pattern] abbrev assetRegister : UInt32 := 0x50
@[match_pattern] abbrev drawCommands : UInt32 := 0x51
@[match_pattern] abbrev layerAdd : UInt32 := 0x60
@[match_pattern] abbrev layerUpdate : UInt32 := 0x61
@[match_pattern] abbrev layerRemove : UInt32 := 0x62
@[match_pattern] abbrev sceneCommit : UInt32 := 0x63
@[match_pattern] abbrev createTab : UInt32 := 0x70
@[match_pattern] abbrev closeTab : UInt32 := 0x71
@[match_pattern] abbrev switchTab : UInt32 := 0x72
@[match_pattern] abbrev tabCreated : UInt32 := 0x73
@[match_pattern] abbrev tabClosed : UInt32 := 0x74
@[match_pattern] abbrev tabActivated : UInt32 := 0x75
@[match_pattern] abbrev tabTitle : UInt32 := 0x76
@[match_pattern] abbrev tabUrl : UInt32 := 0x77
@[match_pattern] abbrev clearData : UInt32 := 0x80
@[match_pattern] abbrev authChallenge : UInt32 := 0x90
@[match_pattern] abbrev authResponse : UInt32 := 0x91
@[match_pattern] abbrev authSuccess : UInt32 := 0x92

end Tag

namespace Compression

abbrev raw : UInt8 := 0
abbrev zstd : UInt8 := 1
abbrev zstdDelta : UInt8 := 2
/-- Half resolution: the only lossy mode. -/
abbrev lz4DeltaQ2 : UInt8 := 3

end Compression

namespace LayerMask

abbrev transform : UInt32 := 1
abbrev opacity : UInt32 := 2
abbrev size : UInt32 := 4
abbrev contentRef : UInt32 := 8
abbrev damage : UInt32 := 16

end LayerMask

def protoVersion : UInt32 := 1

inductive ScrollPhase where
  | start
  | update
  | stop
  | momentum
deriving DecidableEq, Repr

def ScrollPhase.toU8 : ScrollPhase → UInt8
  | .start => 1
  | .update => 2
  | .stop => 3
  | .momentum => 4

def ScrollPhase.fromU8 : UInt8 → Wire ScrollPhase
  | 1 => pure .start
  | 2 => pure .update
  | 3 => pure .stop
  | 4 => pure .momentum
  | _ => throw (.err .invalidValue)

inductive LayerKind where
  | solid
  | video
  | tile
  | vector
deriving DecidableEq, Repr

def LayerKind.toU8 : LayerKind → UInt8
  | .solid => 0
  | .video => 1
  | .tile => 2
  | .vector => 3

def LayerKind.fromU8 : UInt8 → Wire LayerKind
  | 0 => pure .solid
  | 1 => pure .video
  | 2 => pure .tile
  | 3 => pure .vector
  | _ => throw (.err .invalidValue)

inductive ContentRef where
  | none
  | solid (rgba : UInt32)
  | trackId (track : UInt64)
  | assetHash (hash : Bytes32)
deriving DecidableEq

abbrev Transform := { cells : List Int32 // cells.length = 6 }

def transformIdentity : Transform := ⟨[256, 0, 0, 256, 0, 0], rfl⟩

inductive CursorShape where
  | default
  | pointer
  | text
  | progress
  | wait
  | crosshair
  | move
  | notAllowed
  | grab
  | grabbing
  | resizeEw
  | resizeNs
  | resizeNesw
  | resizeNwse
  | custom
deriving DecidableEq, Repr

def CursorShape.toU8 : CursorShape → UInt8
  | .default => 0
  | .pointer => 1
  | .text => 2
  | .progress => 3
  | .wait => 4
  | .crosshair => 5
  | .move => 6
  | .notAllowed => 7
  | .grab => 8
  | .grabbing => 9
  | .resizeEw => 10
  | .resizeNs => 11
  | .resizeNesw => 12
  | .resizeNwse => 13
  | .custom => 255

def CursorShape.fromU8 : UInt8 → Wire CursorShape
  | 0 => pure .default
  | 1 => pure .pointer
  | 2 => pure .text
  | 3 => pure .progress
  | 4 => pure .wait
  | 5 => pure .crosshair
  | 6 => pure .move
  | 7 => pure .notAllowed
  | 8 => pure .grab
  | 9 => pure .grabbing
  | 10 => pure .resizeEw
  | 11 => pure .resizeNs
  | 12 => pure .resizeNesw
  | 13 => pure .resizeNwse
  | 255 => pure .custom
  | _ => throw (.err .invalidValue)

inductive DrawCommand where
  | fillRect (x y : Int32) (w h : UInt32) (rgba : UInt32)
  | strokeRect (x y : Int32) (w h : UInt32) (rgba : UInt32) (lineWidth : UInt16)
  | drawText (x y : Int32) (fontSize : UInt16) (rgba : UInt32) (text : String)
  | drawImage (x y : Int32) (w h : UInt32) (assetHash : Bytes32)
  | setClip (x y : Int32) (w h : UInt32)
  | clearClip
deriving DecidableEq

inductive Message where
  | hello (protoVersion : UInt32) (viewportW viewportH dprHundredths : UInt16)
      (clientName : String) (capabilities : UInt32)
  | welcome (protoVersion : UInt32) (sessionId : UInt64) (features cursorTrackId : UInt32)
      (currentUrl : String)
  | resize (viewportW viewportH dprHundredths : UInt16)
  | nav (url : String)
  | navAction (action : UInt8)
  | stop
  | heartbeat (tsUs : UInt64)
  | inputPointer (tsUs : UInt64) (x y : Int32) (modifiers : UInt32)
  | inputButton (tsUs : UInt64) (x y : Int32) (button : UInt32) (pressed : Bool)
      (modifiers : UInt32)
  | inputKey (tsUs : UInt64) (keycode mods : UInt32) (down : Bool)
  | inputScroll (tsUs : UInt64) (layerId : UInt32) (dxUnits dyUnits : Int32)
      (phase : ScrollPhase)
  | setZoom (levelMilli : UInt32)
  | cursorState (shape : CursorShape) (hotspotX hotspotY : UInt16) (imageRef : UInt64)
  | loadState (state : UInt8)
  | title (title : String)
  | urlChanged (url : String)
  | layerAdd (id parent : UInt32) (kind : LayerKind) (size : UInt16 × UInt16)
      (transform : Transform) (opacity : UInt8) (content : ContentRef)
  | layerUpdate (id mask : UInt32) (transform : Transform) (opacity : UInt8)
      (size : UInt16 × UInt16) (content : ContentRef)
      (damage : UInt16 × UInt16 × UInt16 × UInt16)
  | layerRemove (id : UInt32)
  | sceneCommit (version : UInt64)
  | subframe (tsUs : UInt64) (x y w h : UInt16) (stride format : UInt32)
      (compression : UInt8) (pixels : Bytes)
  | rawFrame (tsUs : UInt64) (width height : UInt16) (stride format : UInt32)
      (compression : UInt8) (pixels : Bytes)
  | tileData (hash : UInt64) (w h : UInt16) (stride format : UInt32) (compression : UInt8)
      (pixels : Bytes)
  | tileRef (tsUs : UInt64) (x y w h : UInt16) (hash : UInt64)
  | assetRegister (hash : Bytes32) (kind : UInt8) (data : Bytes)
  | drawCommands (tsUs : UInt64) (layerId : UInt32) (commands : List DrawCommand)
  | audioFrame (ptsUs : UInt64) (codec channels : UInt8) (sampleRate : UInt32) (data : Bytes)
  | videoChunk (ptsUs : UInt64) (durationUs : UInt32) (isKeyframe : Bool) (codec : UInt8)
      (layerId : UInt32) (data : Bytes)
  | createTab (tabId : UInt32) (url : String)
  | closeTab (tabId : UInt32)
  | switchTab (tabId : UInt32)
  | tabCreated (tabId : UInt32) (title url : String)
  | tabClosed (tabId : UInt32)
  | tabActivated (tabId : UInt32)
  | tabTitle (tabId : UInt32) (title : String)
  | tabUrl (tabId : UInt32) (url : String)
  | clearData (clearCookies clearCache clearStorage : Bool)
  | authChallenge (nonce : Bytes32)
  | authResponse (tokenHash : Bytes32)
  | authSuccess (nodeId : String)
deriving DecidableEq

def Message.tag : Message → UInt32
  | .hello .. => Tag.hello
  | .welcome .. => Tag.welcome
  | .resize .. => Tag.resize
  | .nav .. => Tag.nav
  | .navAction .. => Tag.navAction
  | .stop => Tag.stop
  | .heartbeat .. => Tag.heartbeat
  | .inputPointer .. => Tag.inputPointer
  | .inputButton .. => Tag.inputButton
  | .inputKey .. => Tag.inputKey
  | .inputScroll .. => Tag.inputScroll
  | .setZoom .. => Tag.setZoom
  | .cursorState .. => Tag.cursorState
  | .loadState .. => Tag.loadState
  | .title .. => Tag.title
  | .urlChanged .. => Tag.urlChanged
  | .rawFrame .. => Tag.rawFrame
  | .subframe .. => Tag.subframe
  | .tileData .. => Tag.tileData
  | .tileRef .. => Tag.tileRef
  | .assetRegister .. => Tag.assetRegister
  | .drawCommands .. => Tag.drawCommands
  | .audioFrame .. => Tag.audioFrame
  | .videoChunk .. => Tag.videoChunk
  | .layerAdd .. => Tag.layerAdd
  | .layerUpdate .. => Tag.layerUpdate
  | .layerRemove .. => Tag.layerRemove
  | .sceneCommit .. => Tag.sceneCommit
  | .createTab .. => Tag.createTab
  | .closeTab .. => Tag.closeTab
  | .switchTab .. => Tag.switchTab
  | .tabCreated .. => Tag.tabCreated
  | .tabClosed .. => Tag.tabClosed
  | .tabActivated .. => Tag.tabActivated
  | .tabTitle .. => Tag.tabTitle
  | .tabUrl .. => Tag.tabUrl
  | .clearData .. => Tag.clearData
  | .authChallenge .. => Tag.authChallenge
  | .authResponse .. => Tag.authResponse
  | .authSuccess .. => Tag.authSuccess

end ExoBrowser.Proto
