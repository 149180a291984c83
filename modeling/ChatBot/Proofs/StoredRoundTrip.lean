import ChatBot.Proofs.JsonReading
import ChatBot.Proofs.NormalForm

/-!
# Stored signatures read back

A signature is stored as the list of its parameters in a data format. Whatever the format,
when it reads back every list of parameters it writes, reading back the text a signature is
stored as gives the signature again when it is in normal form (`readStored_writeStored`), as
every signature built by the library is.

The library's JSON is such a format (`storedJson_readsBack`). A list is written as the
compact JSON of its parameters' records (`bytesOf_write`), the records fit the stored shape,
so the reader takes them back, and each record gives back its parameter.
-/

namespace ChatBot

namespace Signature

open JsonFormat

/-- The record a parameter is stored as. -/
def datumOf (p : Parameter) : Datum :=
  .record [("name", .text p.name), ("kind", .choice p.kind.tag), ("required", .flag p.required),
    ("is_array", .flag p.repeated)]

/-- Every kind is found again from its tag among the stored kinds. -/
theorem storedKinds_find_tag (k : Kind) : storedKinds.find? (·.tag == k.tag) = some k := by
  cases k <;> rfl

/-- A parameter is read back from its record. -/
theorem parameterOf_datumOf (p : Parameter) : parameterOf (datumOf p) = p := by
  simp [parameterOf, datumOf, Datum.field?, Datum.asText?, Datum.asFlag?, List.lookup_cons,
    storedKinds_find_tag]

/-- Tags are lowercase letters, which `quote` writes as they are. -/
theorem escapedBytes_tag (k : Kind) : escapedBytes k.tag = bytesOf k.tag := by
  cases k <;> rfl

/-- The records of parameters fit the stored shape. -/
theorem stored_fits (ps : List Parameter) : Fits 128 storedShape (.list (ps.map datumOf)) := by
  refine Fits.list 127 fun x member => ?_
  obtain ⟨p, -, rfl⟩ := List.mem_map.mp member
  have distinct : ["name", "kind", "required", "is_array"].Nodup := by decide
  refine Fits.record 126 _ false rfl distinct ?_
  intro e entry shape declared
  simp only [List.mem_cons, List.not_mem_nil, or_false] at entry
  rcases entry with rfl | rfl | rfl | rfl <;> simp [List.lookup_cons] at declared <;> subst declared
  · exact Fits.text 125 _
  · exact Fits.choice 125 _ (by cases p.kind <;> decide)
  · exact Fits.flag 125 _
  · exact Fits.flag 125 _

/-- A parameter is written as the compact JSON of its record. -/
theorem bytesOf_entryJson (p : Parameter) : bytesOf (entryJson p) = datumBytes (datumOf p) := by
  have opening : bytesOf "\x7b\"name\":" = 123 :: 34 :: escapedBytes "name" ++ [34, 58] := rfl
  have kind : bytesOf ",\"kind\":\"" = 44 :: 34 :: escapedBytes "kind" ++ [34, 58, 34] := rfl
  have required :
      bytesOf "\",\"required\":" = 34 :: 44 :: 34 :: escapedBytes "required" ++ [34, 58] := rfl
  have repeated : bytesOf ",\"is_array\":" = 44 :: 34 :: escapedBytes "is_array" ++ [34, 58] := rfl
  have closing : bytesOf "\x7d" = [125] := rfl
  rw [entryJson, datumOf, datumBytes]
  simp [bytesOf_quote, escapedBytes_tag p.kind, commaSeparated, entryBytes, datumBytes,
    opening, kind, required, repeated, closing]

/-- A list of parameters is written as the compact JSON of their records. -/
theorem bytesOf_write (ps : List Parameter) :
    bytesOf (storedJson.write ps) = datumBytes (.list (ps.map datumOf)) := by
  have brackets : bytesOf "[" = [91] ∧ bytesOf "]" = [93] := ⟨rfl, rfl⟩
  show bytesOf ("[" ++ ",".intercalate (ps.map entryJson) ++ "]") = _
  rw [datumBytes, bytesOf_append, bytesOf_append, bytesOf_intercalate, List.map_map,
    brackets.1, brackets.2]
  simp only [Function.comp_def, bytesOf_entryJson, List.map_map]
  rfl

/-- The library's JSON reads back every list of parameters it writes. -/
theorem storedJson_readsBack : storedJson.ReadsBack := by
  intro ps
  have back : (ps.map datumOf).map parameterOf = ps := by
    rw [List.map_map]
    conv_rhs => rw [← List.map_id ps]
    apply List.map_congr_left
    intro p _
    exact parameterOf_datumOf p
  show (JsonFormat.parse storedShape (storedJson.write ps)).map _ = _
  rw [parse_eq_of_fits (stored_fits ps) (bytesOf_write ps)]
  simp only [Except.map, Datum.asList, back]

/-- In a format that reads back what it writes, a signature in normal form is read back from
the text it is stored as. -/
theorem readStored_writeStored {format : ParameterFormat} (lawful : format.ReadsBack)
    {g : Signature} (normal : g.Normal) : readStored format (writeStored format g) = .ok g := by
  simp only [readStored, writeStored, lawful g.params, ofParameters_of_normal normal]

/-- A signature in normal form is read back from its JSON text as itself. -/
theorem ofJsonText_toJsonText {g : Signature} (normal : g.Normal) :
    ofJsonText (toJsonText g) = .ok g :=
  readStored_writeStored storedJson_readsBack normal

/-- A signature is in normal form whichever way it is built: from parameters, by compiling a
usage line, by reading it from any data format it is stored in, or as the empty default.
Built from parameters it holds exactly the normalized parameters with each later repeat of a
name dropped, in input order, and building again from those changes nothing. A signature in
normal form is built back from its own parameters, and read back from the text it is stored
as in any format that reads back the lists of parameters it writes. -/
theorem normal_whichever_way_built :
    (∀ ps : List Parameter,
      (ofParameters ps).params = (ps.map Parameter.normalize).eraseDupsBy sameName ∧
        (ofParameters ps).Normal ∧ ofParameters (ofParameters ps).params = ofParameters ps) ∧
    (∀ spec : String, (compile spec).Normal) ∧
    (∀ (format : ParameterFormat) (text : String) (g : Signature),
      readStored format text = .ok g → g.Normal) ∧
    (default : Signature).Normal ∧
    (∀ g : Signature, g.Normal → ofParameters g.params = g ∧
      ∀ format : ParameterFormat, format.ReadsBack →
        readStored format (writeStored format g) = .ok g) :=
  ⟨fun ps => ⟨ofParameters_params ps, ofParameters_normal ps, ofParameters_idem ps⟩,
    compile_normal, fun _ _ _ read => readStored_normal read, default_normal,
    fun _ normal => ⟨ofParameters_of_normal normal,
      fun _ lawful => readStored_writeStored lawful normal⟩⟩

end Signature

end ChatBot
