import CallReplay.Database.PlainFormat
import CallReplay.Proofs.Store.Rows
import CallReplay.Proofs.Text.Utf8
import CallReplay.Proofs.Wire.Decoder

/-!
# What is saved in a database file is loaded again

A format is lawful if it gives back every intact database that is saved in a file, whatever the file
held before, and takes an empty file for a database that has not been written yet. The plain format
is lawful, since the blocks that bytes consist of are the blocks that were written.
-/

namespace CallReplay.DatabaseFormat

/-- What a program may rely on when it keeps databases in files of a format. -/
structure IsLawful (format : DatabaseFormat) : Prop where
  load_save (before : List UInt8) {file : DatabaseFile}
    (intact : ∀ db, file.content = some db → db.Intact) :
    format.load (format.save before file) = .ok (some file)
  load_nil : format.load [] = .ok none

/-- A block is read back from the start of bytes. -/
lemma readBlocks_writeBlock (block : List UInt8) (rest : List UInt8) :
    readBlocks (writeBlock block ++ rest) = (readBlocks rest).map (block :: ·) := by
  induction block with
  | nil => rfl
  | cons b block ih =>
    have next : writeBlock (b :: block) ++ rest = 1 :: b :: (writeBlock block ++ rest) := rfl
    rw [next, readBlocks, ih]
    cases readBlocks rest <;> rfl

/-- Blocks are read back. -/
@[simp]
lemma readBlocks_writeBlocks (blocks : List (List UInt8)) :
    readBlocks (writeBlocks blocks) = some blocks := by
  induction blocks with
  | nil => rfl
  | cons block blocks ih =>
    rw [writeBlocks, List.flatMap_cons, readBlocks_writeBlock, ← writeBlocks, ih, Option.map_some]

/-- A text is read back. -/
@[simp]
lemma readText_encode (s : String) : readText (Text.Utf8.encode s) = some s := by
  rw [readText, Text.Utf8.decode_encode]
  rfl

/-- An index is read back. -/
@[simp]
lemma readIndex_writeIndex (n : UInt32) : readIndex (writeIndex n) = n := by
  rw [readIndex, writeIndex, Wire.ofLittleEndian_littleEndian n.toNat_lt, UInt32.ofNat_toNat]

/-- A flag is read back. -/
@[simp]
lemma readFlag_writeFlag (b : Bool) : readFlag (writeFlag b) = b := by
  cases b <;> rfl

/-- What is read back one by one is read back from a list. -/
lemma readMany_writeMany {α : Type} {write : α → List UInt8} {read : List UInt8 → Option α}
    (each : ∀ a, read (write a) = some a) (values : List α) :
    readMany read (writeMany write values) = some values := by
  have all : (values.map write).mapM read = some values := by
    induction values with
    | nil => rfl
    | cons a values ih => simp [each, ih]
  rw [readMany, writeMany, readBlocks_writeBlocks]
  exact all

/-- A row is read back. -/
@[simp]
lemma readRow_writeRow (row : SamplerRow) : readRow (writeRow row) = some row := by
  obtain ⟨⟨⟨id⟩, name, target, method, script⟩, callIndex, signature, record⟩ := row
  cases record <;> simp [readRow, writeRow]

/-- A post-processor is read back. -/
@[simp]
lemma readPostProcessor_writePostProcessor (p : PostProcessor) :
    readPostProcessor (writePostProcessor p) = some p := by
  simp [readPostProcessor, writePostProcessor]

/-- A database is read back with its rows in their order. -/
@[simp]
lemma readDatabase_writeDatabase (db : Database) : readDatabase (writeDatabase db) = some db := by
  simp [readDatabase, writeDatabase, readMany_writeMany readRow_writeRow,
    readMany_writeMany readPostProcessor_writePostProcessor]

/-- The file of a database is read back. -/
lemma readFile_writeFile (file : DatabaseFile) : readFile (writeFile file) = some file := by
  obtain ⟨journal, content⟩ := file
  cases journal <;> cases content <;>
    simp [readFile, writeFile, readMany_writeMany readDatabase_writeDatabase]

/-- A file that was written begins with its mark. -/
lemma one_lt_length_writeFile (file : DatabaseFile) : 1 < (writeFile file).length := by
  have marked : writeFile file =
      writeBlock mark ++ writeBlocks [writeFlag (file.journal = .log),
        writeMany writeDatabase file.content.toList] := rfl
  have first : 1 < (writeBlock mark).length := by decide
  rw [marked, List.length_append]
  omega

/-- The plain format gives back what is saved in it. -/
theorem plain_isLawful : plain.IsLawful where
  load_save before file _ := by
    have written : ¬ (writeFile file).length ≤ 1 := Nat.not_le.mpr (one_lt_length_writeFile file)
    simp only [plain, written, if_false, readFile_writeFile]
  load_nil := rfl

end CallReplay.DatabaseFormat
