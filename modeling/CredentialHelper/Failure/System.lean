import CredentialHelper.Host.FileName
import CredentialHelper.Text.Quoted

/-!
# Failures of the file system

A failure has a number, a text for it, and the one or two paths that the operation was about.
-/

namespace CredentialHelper

inductive Errno where
  | notFound
  | denied
  | busy
  | exists
  | notDirectory
  | isDirectory
  | invalid
  | nameTooLong
  | notEmpty
  /-- One of the many numbers that a tree never gives, such as that of a full disk. -/
  | other (number : Nat) (message : String)
  deriving DecidableEq, Repr

namespace Errno

def number : Errno → Nat
  | .notFound => 2
  | .denied => 13
  | .busy => 16
  | .exists => 17
  | .notDirectory => 20
  | .isDirectory => 21
  | .invalid => 22
  | .nameTooLong => 36
  | .notEmpty => 39
  | .other number _ => number

def message : Errno → String
  | .notFound => "No such file or directory"
  | .denied => "Permission denied"
  | .busy => "Device or resource busy"
  | .exists => "File exists"
  | .notDirectory => "Not a directory"
  | .isDirectory => "Is a directory"
  | .invalid => "Invalid argument"
  | .nameTooLong => "File name too long"
  | .notEmpty => "Directory not empty"
  | .other _ message => message

end Errno

structure SystemError where
  errno : Errno
  path : Text
  /-- The second path of an operation on two. -/
  target : Option Text
  deriving DecidableEq, Repr

def SystemError.message (e : SystemError) : String :=
  "[Errno " ++ toString e.errno.number ++ "] " ++ e.errno.message ++ ": " ++ Quoted.text e.path ++
    match e.target with
    | none => ""
    | some target => " -> " ++ Quoted.text target

end CredentialHelper
