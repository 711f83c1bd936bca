import CallReplay.Database.Format
import CallReplay.Wire.Decoder

/-!
# A plain format of database files

The program is run with this format. A file is a list of blocks of bytes: a mark, the way its
changes are secured, and what it holds. Blocks that belong together are written as a list of blocks
again. A file of at most one byte is a database that has not been written yet.
-/

namespace CallReplay.DatabaseFormat

/-- A block of bytes: a one stands before each of them, and a zero behind the last. -/
def writeBlock (block : List UInt8) : List UInt8 := (block.flatMap fun b => [1, b]) ++ [0]

/-- Blocks one after another. -/
def writeBlocks (blocks : List (List UInt8)) : List UInt8 := blocks.flatMap writeBlock

/-- The blocks that bytes consist of. -/
def readBlocks : List UInt8 → Option (List (List UInt8))
  | [] => some []
  | 0 :: rest => (readBlocks rest).map ([] :: ·)
  | 1 :: b :: rest =>
    match readBlocks rest with
    | some (block :: blocks) => some ((b :: block) :: blocks)
    | _ => none
  | _ => none

/-- Values as a list of blocks. -/
def writeMany {α : Type} (write : α → List UInt8) (values : List α) : List UInt8 :=
  writeBlocks (values.map write)

/-- The values of a list of blocks, if each block has one. -/
def readMany {α : Type} (read : List UInt8 → Option α) (bytes : List UInt8) : Option (List α) := do
  (← readBlocks bytes).mapM read

/-- The text of a block, if the block is UTF-8. -/
def readText (bytes : List UInt8) : Option String := (Text.Utf8.decode bytes).toOption

/-- An index in four bytes. -/
def writeIndex (n : UInt32) : List UInt8 := Wire.littleEndian 4 n.toNat

/-- The index that four bytes stand for. -/
def readIndex (bytes : List UInt8) : UInt32 := UInt32.ofNat (Wire.ofLittleEndian bytes)

/-- A flag: no bytes stand for its absence. -/
def writeFlag (b : Bool) : List UInt8 := if b then [1] else []

/-- Whether a flag is set. -/
def readFlag (bytes : List UInt8) : Bool := !bytes.isEmpty

/-- A row as the blocks of its fields. The record is a list of at most one block. -/
def writeRow (row : SamplerRow) : List UInt8 :=
  writeBlocks [Text.Utf8.encode row.sampler.id.text, Text.Utf8.encode row.sampler.name,
    Text.Utf8.encode row.sampler.target, Text.Utf8.encode row.sampler.method,
    Text.Utf8.encode row.sampler.argumentsScript, writeIndex row.callIndex,
    Text.Utf8.encode row.signature, writeBlocks row.record.toList]

/-- The row of the blocks of its fields. -/
def readRow (bytes : List UInt8) : Option SamplerRow := do
  let [id, name, target, method, script, callIndex, signature, record] ← readBlocks bytes | none
  let sampler : Sampler :=
    ⟨⟨← readText id⟩, ← readText name, ← readText target, ← readText method, ← readText script⟩
  pure ⟨sampler, readIndex callIndex, ← readText signature, (← readBlocks record).head?⟩

/-- A post-processor as the blocks of its fields. -/
def writePostProcessor (p : PostProcessor) : List UInt8 :=
  writeBlocks [Text.Utf8.encode p.id.text, Text.Utf8.encode p.name, Text.Utf8.encode p.script,
    writeFlag p.resetInterpreter, Text.Utf8.encode p.runsAfter.text]

/-- The post-processor of the blocks of its fields. -/
def readPostProcessor (bytes : List UInt8) : Option PostProcessor := do
  let [id, name, script, resetInterpreter, runsAfter] ← readBlocks bytes | none
  pure ⟨⟨← readText id⟩, ← readText name, ← readText script, readFlag resetInterpreter,
    ⟨← readText runsAfter⟩⟩

/-- A database as the blocks of its two tables. -/
def writeDatabase (db : Database) : List UInt8 :=
  writeBlocks [writeMany writeRow db.samplers, writeMany writePostProcessor db.postProcessors]

/-- The database of the blocks of its two tables. -/
def readDatabase (bytes : List UInt8) : Option Database := do
  let [samplers, postProcessors] ← readBlocks bytes | none
  pure ⟨← readMany readRow samplers, ← readMany readPostProcessor postProcessors⟩

/-- The first block of a database file. -/
def mark : List UInt8 := Text.Utf8.encode "call replay database"

/-- A file as its mark, the way its changes are secured, and what it holds if it has been set up. -/
def writeFile (file : DatabaseFile) : List UInt8 :=
  writeBlocks [mark, writeFlag (file.journal = .log), writeMany writeDatabase file.content.toList]

/-- What bytes hold of a database, if they start with the mark. -/
def readFile (bytes : List UInt8) : Option DatabaseFile := do
  let [first, log, content] ← readBlocks bytes | none
  if first ≠ mark then none
  pure ⟨if readFlag log then .log else .rollback, (← readMany readDatabase content).head?⟩

/-- The format in which a file is written anew each time it is saved. -/
def plain : DatabaseFormat where
  load bytes :=
    if bytes.length ≤ 1 then .ok none
    else
      match readFile bytes with
      | some file => .ok (some file)
      | none => .error .notADatabase
  save _ file := writeFile file

end CallReplay.DatabaseFormat
