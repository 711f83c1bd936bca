import CallReplay.Files
import CallReplay.Wire.Decoder

/-!
# Side files

Beside the file of a database there may be others, whose names are longer by an ending. A journal
keeps what a change of the file overwrites until the change is complete. A log takes the changes
instead of the file, and its index tells what is in it. A lock keeps other programs away.
-/

namespace CallReplay

/-- A file beside that of a database. -/
inductive SideFile where
  | journal
  | log
  | index
  | lock
  deriving DecidableEq

namespace SideFile

/-- What the name of the file of a database is longer by. -/
def ending : SideFile → String
  | journal => "-journal"
  | log => "-wal"
  | index => "-shm"
  | lock => ".lock"

/-- The written path of the side file of a database. -/
def beside (s : SideFile) (path : FilePath) : List UInt8 :=
  path.toBytes ++ Text.Utf8.encode s.ending

end SideFile

/-- The length of the head of a log. -/
def logHeadLength : Nat := 32

/-- Whether an index without entries fits a log. The head of the log has to bear the number of the
index, which is zero, in its third quarter. -/
def fitsEmptyIndex (log : List UInt8) : Bool :=
  log.length < logHeadLength || ((log.drop 16).take 8).all (· = 0)

/-- The head of an index without entries: its version, whether it is in use, the counts, and sums
over the head. -/
def emptyIndexHead : List UInt8 :=
  Wire.writeUInt32 3007000 ++ List.replicate 8 0 ++ [1] ++ List.replicate 27 0 ++
    Wire.writeUInt32 0x06180738 ++ Wire.writeUInt32 0x09DB9335

/-- The length of an index without entries. -/
def emptyIndexLength : Nat := 32768

/-- An index without entries: its head twice, marks of five readers of which one is in use, and room
for entries. -/
def emptyIndex : List UInt8 :=
  let head := emptyIndexHead ++ emptyIndexHead ++ List.replicate 8 0 ++ List.replicate 16 0xFF
  head ++ List.replicate (emptyIndexLength - head.length) 0

end CallReplay
