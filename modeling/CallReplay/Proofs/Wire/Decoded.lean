import CallReplay.Proofs.Wire.Graph

/-!
# What is read from bytes

Any bytes may be read, also those that nothing writes. What is true of the values that come out
is told along the readers (`Gives`): a type that was read has at most 255 dimensions, and so
has every type in a graph that was read. So a graph can be written and read again, whatever
bytes it comes from.
-/

namespace CallReplay.Wire

/-- What is read is good, whatever it is read from. -/
def Gives {ε α : Type} (read : StateT (List UInt8) (Except ε) α) (good : α → Prop) : Prop :=
  ∀ bytes a rest, read.run bytes = .ok (a, rest) → good a

section

variable {ε α β : Type} {x : StateT (List UInt8) (Except ε) α}
  {f : α → StateT (List UInt8) (Except ε) β} {good p : α → Prop} {q : β → Prop}

/-- Nothing is said of what a reader gives. -/
lemma gives_any (x : StateT (List UInt8) (Except ε) α) :
    Gives x fun _ => True := fun _ _ _ _ => trivial

/-- A value that is good is given. -/
lemma gives_pure {a : α} (h : good a) : Gives (pure a : StateT (List UInt8) (Except ε) α) good := by
  intro bytes b rest hb
  cases hb
  exact h

/-- A reader that fails gives nothing. -/
lemma gives_throw (e : ε) : Gives (throw e : StateT (List UInt8) (Except ε) α) good := by
  intro bytes b rest hb
  cases hb

/-- The second of two readers may rely on what the first gives. -/
lemma Gives.bind (hx : Gives x p) (hf : ∀ a, p a → Gives (f a) q) : Gives (x >>= f) q := by
  intro bytes b rest hb
  obtain ⟨a, left, hfirst, hsecond⟩ := run_bind_eq_ok_iff.mp hb
  exact hf a (hx _ _ _ hfirst) _ _ _ hsecond

/-- What is made of a good value is good if the value was good enough. -/
lemma Gives.map (hx : Gives x p) (g : α → β) (h : ∀ a, p a → q (g a)) :
    Gives (x >>= fun a => pure (g a)) q :=
  hx.bind fun a ha => gives_pure (h a ha)

end

section

variable {α β : Type} {read : Decoder α} {good : α → Prop}

/-- A number that no case has gives nothing. -/
lemma gives_unknownVariant (found : UInt32) (count : Nat) :
    Gives (unknownVariant found count : Decoder α) good :=
  gives_throw _

/-- Values are good if the reader of each gives good ones. -/
lemma gives_readMany (h : Gives read good) (count : Nat) :
    Gives (readMany read count) fun values => ∀ a ∈ values, good a := by
  induction count with
  | zero => exact gives_pure (List.forall_mem_nil _)
  | succ count ih =>
    exact h.bind fun a ha => ih.map (a :: ·) fun values hvalues => List.forall_mem_cons.mpr
      ⟨ha, hvalues⟩

/-- Everything in a list that is read is read. -/
lemma gives_readList (h : Gives read good) :
    Gives (readList read) fun values => ∀ a ∈ values, good a :=
  (gives_any (readNat 8)).bind fun length _ => gives_readMany h length

/-- A pair is good if the readers of its parts give good ones. -/
lemma gives_pair {y : Decoder β} {other : β → Prop} (hx : Gives read good) (hy : Gives y other) :
    Gives (readPair read y) fun p => good p.1 ∧ other p.2 :=
  hx.bind fun a ha => hy.map (fun b => (a, b)) fun _ hb => ⟨ha, hb⟩

end

/-- The flat form with too many dimensions is refused. -/
lemma gives_type : Gives readType fun t => t.dimensions ≤ maxDimensions := by
  refine (gives_any readElementType).bind fun element _ =>
    (gives_any readUInt32).bind fun dimensions _ => ?_
  split
  next t ht => exact gives_pure (TypeDesc.few_of_ofFlat ht).2
  next => exact gives_throw _

/-- Of the values only the class of a type has a type in it. -/
lemma gives_value : Gives readValue fun v => Shallow v.types := by
  refine (gives_any readUInt32).bind fun number _ => ?_
  split
  · exact gives_pure shallow_nil
  · exact (gives_any readBool).map _ fun _ _ => shallow_nil
  · exact (gives_any readChar).map _ fun _ _ => shallow_nil
  · exact (gives_any (readNat 1)).map _ fun _ _ => shallow_nil
  · exact (gives_any (readNat 2)).map _ fun _ _ => shallow_nil
  · exact (gives_any (readNat 4)).map _ fun _ _ => shallow_nil
  · exact (gives_any (readNat 8)).map _ fun _ _ => shallow_nil
  · exact (gives_any readUInt32).map _ fun _ _ => shallow_nil
  · exact (gives_any readUInt64).map _ fun _ _ => shallow_nil
  · exact (gives_any readText).map _ fun _ _ => shallow_nil
  · exact gives_type.map _ fun _ few => shallow_cons.mpr ⟨few, shallow_nil⟩
  · exact (gives_any readId).map _ fun _ _ => shallow_nil
  · exact gives_unknownVariant _ _

/-- The content of a field that is read has types of few dimensions. -/
lemma gives_slot : Gives readSlot fun slot => Shallow slot.types := by
  refine (gives_any readUInt32).bind fun number _ => ?_
  split
  · exact gives_value.map _ fun _ h => h
  · exact gives_pure shallow_nil
  · exact gives_unknownVariant _ _

/-- A field that is read has types of few dimensions. -/
lemma gives_field : Gives readField fun f => Shallow f.types :=
  (gives_any readText).bind fun _ _ => gives_type.bind fun _ few =>
  (gives_any readModifiers).bind fun _ _ =>
    (gives_any readBool).bind fun _ _ => gives_slot.map _ fun _ h => shallow_cons.mpr ⟨few, h⟩

/-- An object with fields that is read has types of few dimensions. -/
lemma gives_struct : Gives readStruct fun s => Shallow (s.fields.flatMap Field.types) :=
  (gives_any readText).bind fun _ _ => (gives_any readBool).bind fun _ _ =>
  (gives_any readBool).bind fun _ _ =>
    (gives_readList gives_field).map _ fun _ h => shallow_flatMap.mpr h

/-- An object that is read has types of few dimensions. -/
lemma gives_object : Gives readObject fun object => Shallow object.types := by
  have values := gives_readList gives_value
  have entries := gives_readList (gives_pair gives_value gives_value)
  refine (gives_any readUInt32).bind fun number _ => ?_
  split
  · exact gives_type.bind fun _ few => values.map _ fun _ h => shallow_cons.mpr
      ⟨few, shallow_flatMap.mpr h⟩
  · exact (gives_any readText).bind fun _ _ => values.map _ fun _ h => shallow_flatMap.mpr h
  · exact (gives_any (readList (readPair readText readText))).map _ fun _ _ => shallow_nil
  · refine (gives_any readText).bind fun _ _ => entries.map _ fun _ h =>
      shallow_flatMap.mpr fun entry hentry => ?_
    exact shallow_append.mpr (h entry hentry)
  · exact gives_struct.map _ fun _ h => h
  · exact gives_unknownVariant _ _

/-- A heap that is read has types of few dimensions. -/
lemma gives_heap : Gives readHeap fun heap => Shallow heap.types :=
  (gives_readList gives_object).map _ fun _ h => shallow_flatMap.mpr h

/-- The types in arguments that were read are shallow. -/
theorem gives_arguments : Gives readArguments fun a => Shallow a.types :=
  gives_heap.bind fun _ hheap => (gives_readList gives_value).map _ fun _ hvalues =>
    shallow_append.mpr ⟨hheap, shallow_flatMap.mpr hvalues⟩

/-- The types in a payload that was read are shallow. -/
theorem gives_payload : Gives readPayload fun p => Shallow p.types :=
  gives_heap.bind fun _ hheap => gives_value.map _ fun _ hvalue => shallow_append.mpr
    ⟨hheap, hvalue⟩

end CallReplay.Wire
