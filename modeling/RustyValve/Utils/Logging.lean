import RustyValve.Errors
import RustyValve.Std.Path

namespace RustyValve

inductive LevelFilter where
  | off
  | error
  | warn
  | info
  | debug
  | trace
deriving DecidableEq, Repr

structure LoggerConfig where
  printLevel : LevelFilter
  logfileLevel : LevelFilter
  stdoutLog : Option Bool
  logPath : Option Str
deriving DecidableEq, Repr

-- What the process finds around it: the log level parser, the RUSTY_VALVE_LOG_LEVEL variable and
-- the kind of build.
structure LogEnvironment where
  levelFromStr : Str → Option LevelFilter
  logLevel : Option Str
  debugAssertions : Bool

def LogEnvironment.silent : LogEnvironment := ⟨fun _ => none,none,false⟩

def LoggerConfig.default (env : LogEnvironment) : LoggerConfig :=
  let level := (env.logLevel.bind env.levelFromStr).getD
    (if env.debugAssertions then .trace else .info)
  ⟨level,level,none,none⟩

-- Which writers have a worker that the guard ends.
structure LoggerGuard where
  stdoutGuard : Bool
  stderrGuard : Bool
  logfileGuard : Bool
deriving DecidableEq, Repr

-- The directories, and the panics of `rolling::daily` and `rolling::never` where the log file
-- cannot be created.
structure LogFiles where
  isDir : Str → Bool
  daily : Str → Str → Option Str
  never : Str → Str → Option Str

def LogFiles.writable : LogFiles := ⟨fun _ => false,fun _ _ => none,fun _ _ => none⟩

def unlessPanics {T : Type} (panic : Option Str) (t : T) : Except Failure T :=
  match panic with
  | none => .ok t
  | some message => .error (.panicked message)

theorem unlessPanics_ok_iff {T : Type} {panic : Option Str} {t : T} :
    (∃ t', unlessPanics panic t = .ok t') ↔ panic = none := by
  cases panic <;> simp [unlessPanics]

section InitLogger
variable (files : LogFiles)

-- A path without a file name gives no layer, and the server goes on without the file.
def initLogger (config : LoggerConfig) : Except Failure LoggerGuard :=
  let printed := config.stdoutLog.getD config.logPath.isNone
  match config.logPath with
  | none => .ok ⟨printed,printed,false⟩
  | some path =>
    if files.isDir path then unlessPanics (files.daily path "log".toList) ⟨printed,printed,true⟩
    else match Path.fileName path with
      | none => .ok ⟨printed,printed,false⟩
      | some basename => match Path.parent path with
        | none => .ok ⟨printed,printed,false⟩
        | some dirname => unlessPanics (files.never dirname basename) ⟨printed,printed,true⟩

structure LogOpens (path : Str) : Prop where
  daily : files.isDir path → files.daily path "log".toList = none
  never : ¬ files.isDir path → ∀ dirname basename, Path.parent path = some dirname →
    Path.fileName path = some basename → files.never dirname basename = none

theorem initLogger_ok_iff (config : LoggerConfig) :
    (∃ guard, initLogger files config = .ok guard) ↔
      ∀ path, config.logPath = some path → LogOpens files path := by
  cases hl : config.logPath with
  | none => simp [initLogger,hl]
  | some path =>
    simp only [initLogger,hl,Option.some.injEq,forall_eq']
    by_cases hd : files.isDir path
    · simp only [hd,if_true,unlessPanics_ok_iff]
      exact ⟨fun h => ⟨fun _ => h,fun hn => absurd hd hn⟩,fun h => h.daily hd⟩
    · simp only [hd,if_false,Bool.false_eq_true]
      cases hf : Path.fileName path with
      | none =>
        refine ⟨fun _ => ⟨fun h => absurd h hd,fun _ dirname basename _ hb => ?_⟩,fun _ => ⟨_,rfl⟩⟩
        cases hf.symm.trans hb
      | some basename =>
        obtain ⟨dirname,hp⟩ := Path.parent_of_fileName hf
        simp only [hp,unlessPanics_ok_iff]
        constructor
        · refine fun h => ⟨fun hdir => absurd hdir hd,fun _ dirname' basename' hp' hb => ?_⟩
          obtain rfl := Option.some.inj (hp.symm.trans hp')
          obtain rfl := Option.some.inj (hf.symm.trans hb)
          exact h
        · exact fun h => h.never hd dirname basename hp hf

end InitLogger

end RustyValve
