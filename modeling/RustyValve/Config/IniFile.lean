import RustyValve.Connection
import Mathlib.Data.List.AList

namespace RustyValve

abbrev Section := AList (fun _ : Str => Option Str)

abbrev SectionMaps := AList (fun _ : Str => Section)

namespace Section
variable {T : Type} (tryFromConfig : Str → Except Error T)

def takeOptValue (key : Str) (self : Section) : Option T × Section :=
  ((((self.lookup key).map (fun o => o.map (fun v => (tryFromConfig v).toOption))).join).join,
    self.erase key)

def takeMultiValue (key : Str) (self : Section) : Except Error (List T) × Section :=
  let valStringOpt := (self.lookup key).join
  let vec := match valStringOpt with
    | none => .ok []
    | some valsString =>
      (Delimiter.splitTerminator ',' valsString).mapM (fun valStr => tryFromConfig (trim valStr))
  (vec,self.erase key)

@[simp] theorem takeMultiValue_snd (key : Str) (self : Section) :
    (takeMultiValue tryFromConfig key self).2 = self.erase key := rfl

theorem takeMultiValue_erase {key key' : Str} (h : key ≠ key') (self : Section) :
    (takeMultiValue tryFromConfig key (self.erase key')).1 =
      (takeMultiValue tryFromConfig key self).1 := by
  simp only [takeMultiValue,AList.lookup_erase_ne h]

end Section

namespace SectionMaps

def takeSection (sectionName : Str) (self : SectionMaps) : Option Section × SectionMaps :=
  (self.lookup sectionName,self.erase sectionName)

def tryTakeSection (sectionName : Str) (self : SectionMaps) : Except Error Section × SectionMaps :=
  let result := match self.lookup sectionName with
    | some s => .ok s
    | none => .error (.anyhow ("section [".toList ++ sectionName ++ "] not found".toList))
  (result,self.erase sectionName)

end SectionMaps

namespace TryFromConfig

def ofOption {T : Type} (parsed : Str → Option T) (value : Str) : Except Error T :=
  match parsed value with
  | some v => .ok v
  | none => .error (.foreign value)

def bool : Str → Except Error Bool := ofOption boolFromStr

def usize : Str → Except Error UInt64 := ofOption u64FromStr

def duration : Str → Except Error UInt64 := ofOption u64FromStr

def pathBuf (value : Str) : Except Error Str := .ok value

variable (parse : FromStr)

def ipAddr (value : Str) : Except Error IpAddr := ofOption parse.ipAddr (deleteBrackets value)

def u16 : Str → Except Error UInt16 := ofOption parse.u16

def destination (value : Str) : Except Error Destination := Destination.fromStr parse value

def possibleDestinations (value : Str) : Except Error PossibleDestinations :=
  let (accept,refuseOpt) := match Delimiter.splitOnce '|' value with
    | some (accept,refuse) => (accept,some refuse)
    | none => (value,none)
  match refuseOpt with
  | some refuse => do
    let accept ← Destination.fromStr parse accept
    let refuse ← Destination.fromStr parse refuse
    pure (.withElse accept refuse)
  | none => do
    let accept ← Destination.fromStr parse accept
    pure (.withoutElse accept)

end TryFromConfig

end RustyValve
