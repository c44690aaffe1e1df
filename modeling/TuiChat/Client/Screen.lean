import TuiChat.Client.World
import TuiChat.Client.Editor

/-!
# What the terminal shows

The part of the state of `app.rs` that only the terminal has, the events it is told of, and the pure
functions on both: focus, completion, the picker, the dialog, and where on the screen what can be
clicked is drawn. Coordinates are numbers of 16 bits; sums of them stop at the largest one.
-/

namespace TuiChat

open Lib

/-! ## Regions of the screen -/

/-- `u16::saturating_add`. -/
def saturating (a b : Nat) : Nat := min (a + b) 65535

/-- `ratatui::layout::Rect`. -/
structure Rect where
  x : Nat
  y : Nat
  width : Nat
  height : Nat
deriving DecidableEq, Repr

namespace Rect

/-- `Rect::default()`. -/
def empty : Rect := { x := 0, y := 0, width := 0, height := 0 }

def right (r : Rect) : Nat := saturating r.x r.width

def bottom (r : Rect) : Nat := saturating r.y r.height

def contains (r : Rect) (column row : Nat) : Bool :=
  r.x ≤ column && column < r.right && r.y ≤ row && row < r.bottom

end Rect

def centeredRect (width height : Nat) (area : Rect) : Rect where
  x := area.x + (area.width - width) / 2
  y := area.y + (area.height - height) / 2
  width := min width area.width
  height := min height area.height

/-! ## Events of the terminal -/

inductive KeyCode
  | backspace
  | enter
  | left
  | right
  | up
  | down
  | home
  | lineEnd
  | pageUp
  | pageDown
  | tab
  | backTab
  | delete
  | esc
  | f (n : Nat)
  | char (c : Char)
  | other
deriving DecidableEq, Repr

inductive KeyEventKind
  | press
  | repeated
  | release
deriving DecidableEq, Repr

structure KeyEvent where
  code : KeyCode
  control : Bool
  shift : Bool
  alt : Bool
  kind : KeyEventKind
deriving DecidableEq, Repr

inductive MouseButton
  | left
  | right
  | middle
deriving DecidableEq, Repr

inductive MouseEventKind
  | down (button : MouseButton)
  | up (button : MouseButton)
  | drag (button : MouseButton)
  | moved
  | scrollUp
  | scrollDown
  | scrollLeft
  | scrollRight
deriving DecidableEq, Repr

/-- A mouse event; its place is a pair of `u16`. -/
structure MouseEvent where
  kind : MouseEventKind
  column : Nat
  row : Nat
  column_lt : column < 65536
  row_lt : row < 65536
deriving DecidableEq, Repr

/-- `crossterm::event::Event`. -/
inductive TerminalEvent
  | focusGained
  | focusLost
  | key (key : KeyEvent)
  | mouse (mouse : MouseEvent)
  | paste (text : List Char)
  | resize (width height : Nat)
deriving DecidableEq, Repr

/-! ## Texts -/

/-- `str::trim`. -/
def trimText (text : List Char) : List Char := trimEnd (text.dropWhile isWhitespace)

/-- `str::trim_start`. -/
def trimStart (text : List Char) : List Char := text.dropWhile isWhitespace

/-- `str::strip_prefix`. -/
def stripPrefix? (start : String) (text : List Char) : Option (List Char) :=
  if start.toList.isPrefixOf text then some (text.drop start.toList.length) else none

/-- `str::contains`. -/
def textContains (text part : List Char) : Bool := text.tails.any fun rest => part.isPrefixOf rest

/-- `str::to_ascii_lowercase`. -/
def toAsciiLowercase (text : List Char) : List Char := text.map Char.toLower

/-- Controls are shown as replacement characters, so that a text cannot drive the terminal. -/
def sanitizeTerminalText (text : List Char) : List Char :=
  text.map fun c => if c = '\n' ∨ isControl c = false then c else '\uFFFD'

/-- How many rows a text takes. -/
def editorVisualLineCount (seg : Segmentation) (text : List Char) (width : Nat) : Option Nat := do
  return (← editorCursorPosition seg text (byteLength text) width).1 + 1

/-! ## Panes, tabs and themes -/

inductive FocusPane
  | conversations
  | messages
  | composer
deriving DecidableEq, Repr

namespace FocusPane

def next : FocusPane → FocusPane
  | conversations => messages
  | messages => composer
  | composer => conversations

def previous : FocusPane → FocusPane
  | conversations => composer
  | messages => conversations
  | composer => messages

end FocusPane

inductive SidebarTab
  | conversations
  | notifications
deriving DecidableEq, Repr

inductive UiTheme
  | default
  | terminal
deriving DecidableEq, Repr

namespace UiTheme

def available : String := "default、terminal"

def name : UiTheme → String
  | default => "default"
  | terminal => "terminal"

def parse (value : List Char) : Option UiTheme :=
  let value := String.ofList (toAsciiLowercase (trimText value))
  if value ∈ ["default", "classic", "默认"] then some default
  else if value ∈ ["terminal", "shell", "终端"] then some terminal
  else none

end UiTheme

def MessageStatus.label : MessageStatus → String
  | .sending => "发送中"
  | .sent => "已发送"
  | .delivered => "已送达"
  | .read => "已读"

def messagePrompt (theme : UiTheme) (username peerName : String) (inbound : Bool) : String :=
  match theme with
  | .default => (if inbound then peerName else "我") ++ ": "
  | .terminal => (if inbound then peerName else username) ++ "@" ++
      (if inbound then "remote" else "local") ++ ":~$ "

def messageStatusSuffix (theme : UiTheme) (status : MessageStatus) : String :=
  match theme with
  | .default => "  [" ++ status.label ++ "]"
  | .terminal => "  # " ++ status.label

/-! ## The emoji picker -/

structure EmojiEntry where
  glyph : String
  name : String
  keywords : String
deriving DecidableEq, Repr

def emojiCatalog : List EmojiEntry :=
  [ { glyph := "😀", name := "笑脸", keywords := "smile happy 开心" },
    { glyph := "😂", name := "笑哭", keywords := "joy laugh 哈哈" },
    { glyph := "🤣", name := "笑翻", keywords := "rofl laugh 爆笑" },
    { glyph := "😊", name := "微笑", keywords := "blush smile 温暖" },
    { glyph := "😍", name := "喜欢", keywords := "heart eyes love 爱" },
    { glyph := "🥰", name := "喜爱", keywords := "love hearts 喜欢" },
    { glyph := "😘", name := "飞吻", keywords := "kiss love 亲亲" },
    { glyph := "😎", name := "酷", keywords := "cool sunglasses 墨镜" },
    { glyph := "🤔", name := "思考", keywords := "think hmm 想想" },
    { glyph := "🫡", name := "敬礼", keywords := "salute 收到" },
    { glyph := "😢", name := "难过", keywords := "cry sad 哭" },
    { glyph := "😭", name := "大哭", keywords := "sob cry 难受" },
    { glyph := "😡", name := "生气", keywords := "angry mad 愤怒" },
    { glyph := "😴", name := "睡觉", keywords := "sleep tired 困" },
    { glyph := "🤯", name := "震惊", keywords := "mind blown shocked" },
    { glyph := "🥳", name := "庆祝", keywords := "party celebrate 恭喜" },
    { glyph := "👍", name := "赞", keywords := "thumbs up good 好" },
    { glyph := "👎", name := "不赞", keywords := "thumbs down bad" },
    { glyph := "👏", name := "鼓掌", keywords := "clap applause" },
    { glyph := "🙏", name := "感谢", keywords := "pray thanks please" },
    { glyph := "🤝", name := "握手", keywords := "handshake agreement 合作" },
    { glyph := "💪", name := "加油", keywords := "strong muscle 努力" },
    { glyph := "👌", name := "可以", keywords := "ok okay 好的" },
    { glyph := "✌️", name := "胜利", keywords := "victory peace 耶" },
    { glyph := "❤️", name := "红心", keywords := "heart love 爱心" },
    { glyph := "💔", name := "心碎", keywords := "broken heart 难过" },
    { glyph := "🔥", name := "火", keywords := "fire hot 厉害" },
    { glyph := "✨", name := "闪亮", keywords := "sparkles magic 漂亮" },
    { glyph := "🎉", name := "礼花", keywords := "tada party celebrate" },
    { glyph := "🎂", name := "蛋糕", keywords := "cake birthday 生日" },
    { glyph := "🎁", name := "礼物", keywords := "gift present" },
    { glyph := "✅", name := "完成", keywords := "check done yes" },
    { glyph := "❌", name := "错误", keywords := "cross no error" },
    { glyph := "⚠️", name := "警告", keywords := "warning alert 注意" },
    { glyph := "💡", name := "想法", keywords := "idea bulb 灵感" },
    { glyph := "🚀", name := "火箭", keywords := "rocket launch 发布" },
    { glyph := "🐛", name := "虫子", keywords := "bug debug 问题" },
    { glyph := "💻", name := "电脑", keywords := "computer code 编程" },
    { glyph := "📌", name := "图钉", keywords := "pin important 重点" },
    { glyph := "📎", name := "附件", keywords := "paperclip attach" },
    { glyph := "🔒", name := "安全", keywords := "lock secure 加密" },
    { glyph := "👀", name := "关注", keywords := "eyes look 看看" },
    { glyph := "🙌", name := "欢呼", keywords := "raised hands hooray" },
    { glyph := "🫶", name := "爱心手", keywords := "heart hands love" },
    { glyph := "🧑‍💻", name := "开发者", keywords := "developer coder 编程" } ]

structure EmojiPickerState where
  visible : Bool
  query : List Char
  selected : Nat
  scroll : Nat
  columns : Nat
  pageSize : Nat
deriving DecidableEq, Repr

/-- `EmojiPickerState::default()`. -/
def EmojiPickerState.closed : EmojiPickerState where
  visible := false
  query := []
  selected := 0
  scroll := 0
  columns := 0
  pageSize := 0

/-- The indices of the entries that a query matches; `lower` is `str::to_lowercase`. -/
def matchingEmojis (lower : List Char → List Char) (query : List Char) : List Nat :=
  let query := lower (trimText query)
  (emojiCatalog.zipIdx.filter fun (emoji, _) =>
    query.isEmpty || textContains (lower emoji.name.toList) query ||
      textContains (lower emoji.keywords.toList) query || textContains emoji.glyph.toList query).map Prod.snd

/-- The graphemes of a text that the query takes: without controls, as long as they fit in 128 bytes. -/
def appendQuery (query : List Char) (graphemes : List (List Char)) : List Char :=
  graphemes.foldl (fun query grapheme =>
    if grapheme.any isControl || byteLength query + byteLength grapheme > 128 then query
    else query ++ grapheme) query

/-- `(selected + direction).rem_euclid(count)`. -/
def cycled (selected : Nat) (direction : Int) (count : Nat) : Nat := (((selected : Int) + direction) % count).toNat

/-- The grid of the picker, its columns and the width of a cell. -/
def emojiGridLayout (area : Rect) : Rect × Nat × Nat :=
  let grid : Rect :=
    { x := saturating area.x 1
      y := saturating area.y 2
      width := area.width - 2
      height := area.height - 3 }
  let columns := max (grid.width / 13) 1
  (grid, columns, max (grid.width / columns) 1)

/-! ## Completion -/

structure CompletionState where
  candidates : List String
  selected : Nat
deriving DecidableEq, Repr

namespace CompletionState

/-- `CompletionState::default()`. -/
def closed : CompletionState := { candidates := [], selected := 0 }

def isOpen (c : CompletionState) : Bool := !c.candidates.isEmpty

def cycle (c : CompletionState) (direction : Int) : CompletionState :=
  if c.candidates.isEmpty then c else { c with selected := cycled c.selected direction c.candidates.length }

def selected? (c : CompletionState) : Option String := c.candidates[c.selected]?

end CompletionState

def commands : List String :=
  [ "/chat ", "/emoji", "/theme ", "/sidebar ", "/devices", "/search ", "/verify", "/pair ", "/confirm", "/sync",
    "/retry", "/help", "/exit", "/quit" ]

/-- What the text so far can be completed to. -/
def completions (usernames : List String) (requests : List PairingRequest) (input : List Char) : List String :=
  if let some start := stripPrefix? "/chat " input then
    (usernames.filter fun username => start.isPrefixOf username.toList).map fun username => "/chat " ++ username
  else if let some start := stripPrefix? "/pair " input then
    (requests.filter fun r =>
      start.isPrefixOf r.pendingDeviceId.toList || start.isPrefixOf r.pendingDeviceName.toList).map
      fun r => "/pair " ++ r.pendingDeviceId
  else if let some start := stripPrefix? "/theme " input then
    (([UiTheme.default, .terminal].map UiTheme.name).filter fun theme => start.isPrefixOf theme.toList).map
      fun theme => "/theme " ++ theme
  else if let some start := stripPrefix? "/sidebar " input then
    (["hide", "show", "toggle"].filter fun action => start.isPrefixOf action.toList).map
      fun action => "/sidebar " ++ action
  else if ' ' ∉ input then commands.filter fun command => input.isPrefixOf command.toList
  else []

/-! ## The delete dialog -/

inductive DeleteTarget
  | conversation (accountId username : String)
  | notification (notificationId title requestId : String)
  | device (deviceId deviceName : String)
deriving DecidableEq, Repr

structure DeleteConfirmation where
  target : DeleteTarget
  confirmSelected : Bool
deriving DecidableEq, Repr

def NotificationKind.deleteTitle : NotificationKind → String
  | .pairing => "设备配对"
  | .chatRequest => "会话请求"
  | .chatResponse => "会话结果"

/-! ## The layout -/

inductive DragTarget
  | conversations
  | messages
deriving DecidableEq, Repr

structure UiLayout where
  area : Rect
  conversations : Rect
  messages : Rect
  composer : Rect
  status : Rect
  narrow : Bool
deriving DecidableEq, Repr

/-- `UiLayout::default()`. -/
def UiLayout.empty : UiLayout where
  area := .empty
  conversations := .empty
  messages := .empty
  composer := .empty
  status := .empty
  narrow := false

/-- Where what can be clicked was last drawn. -/
structure Areas where
  emojiPicker : Rect
  emojiGrid : Rect
  emojiButton : Rect
  conversationTab : Rect
  notificationTab : Rect
  sidebarToggle : Rect
  conversationDelete : List (Nat × Rect)
  notificationDelete : List (Nat × Rect)
  deleteConfirm : Rect
  deleteCancel : Rect
  notificationPrimaryAction : Rect
  notificationSecondaryAction : Rect
  ownDeviceList : Rect
  ownDeviceClose : Rect
  ownDeviceRefresh : Rect
  ownDeviceRevoke : List (Nat × Rect)
deriving DecidableEq, Repr

def Areas.empty : Areas where
  emojiPicker := .empty
  emojiGrid := .empty
  emojiButton := .empty
  conversationTab := .empty
  notificationTab := .empty
  sidebarToggle := .empty
  conversationDelete := []
  notificationDelete := []
  deleteConfirm := .empty
  deleteCancel := .empty
  notificationPrimaryAction := .empty
  notificationSecondaryAction := .empty
  ownDeviceList := .empty
  ownDeviceClose := .empty
  ownDeviceRefresh := .empty
  ownDeviceRevoke := []

/-- The index of the first region that holds a place. -/
def hitIndex (areas : List (Nat × Rect)) (column row : Nat) : Option Nat :=
  areas.findSome? fun (index, area) => if area.contains column row then some index else none

end TuiChat
