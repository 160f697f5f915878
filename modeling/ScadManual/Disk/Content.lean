import ScadManual.Picture

/-!
# Contents of files

What a file holds: bytes, or a picture in one of the formats for still and moving pictures.  Pictures are
kept as pixels and not as the bytes that encode them.
-/

namespace ScadManual

/-- A frame of a moving picture and the milliseconds it is shown. -/
structure Frame where
  ms : Nat
  picture : Picture
deriving DecidableEq

/-- The content of a file. -/
inductive Content where
  | bytes (data : ByteArray)
  /-- A still picture in the format PNG. -/
  | still (picture : Picture)
  /-- A moving picture in the format PNG. -/
  | moving (frames : List Frame)
  /-- A moving picture in the format GIF. -/
  | gif (frames : List Frame)
  /-- A moving picture in the format PNG that breaks off after some of its frames. -/
  | torn (frames : List Frame)
deriving DecidableEq

namespace Content

/-- The content of a text file. -/
def text (s : String) : Content := .bytes s.toUTF8

/-- The content of an empty file. -/
def empty : Content := .bytes ByteArray.empty

/-- Is the file empty? -/
def isEmpty : Content → Bool
  | .bytes data => data.isEmpty
  | _ => false

/-- The text of the file, when it is text. -/
def text? : Content → Option String
  | .bytes data => String.fromUTF8? data
  | _ => none

/-- Is it a moving picture in the format PNG? -/
def isMovingPng : Content → Bool
  | .moving _ => true
  | .torn _ => true
  | _ => false

/-- The text that stands for the frames of a moving picture. -/
def frameMarks (frames : List Frame) : List ByteArray :=
  frames.flatMap fun f =>
    [("frame " ++ toString f.ms ++ " " ++ toString f.picture.width ++ " " ++
      toString f.picture.height ++ "\n").toUTF8, f.picture.bytes]

/-- Bytes that stand for the content, other ones for other contents of the same kind. -/
def fingerprint : Content → ByteArray
  | .bytes data => data
  | .still p =>
    ("still " ++ toString p.width ++ " " ++ toString p.height ++ "\n").toUTF8 ++ p.bytes
  | .moving frames => (frameMarks frames).foldl (· ++ ·) "moving\n".toUTF8
  | .gif frames => (frameMarks frames).foldl (· ++ ·) "gif\n".toUTF8
  | .torn frames => (frameMarks frames).foldl (· ++ ·) "torn\n".toUTF8

end Content

end ScadManual
