/-
Exemplar.Users — the users of a machine.

A machine knows its users by a file with a line for each of them. Programs look there for the
directory of a user.
-/
import Exemplar.Text.Utf8

namespace Exemplar

/-- A user: the name, the numbers of the user and of the group, what else is known, the directory
and the shell. -/
structure User where
  name : String
  number : Nat
  group : Nat
  about : String
  home : String
  shell : String

namespace User

/-- A user that runs services and cannot be logged in as. -/
def service (name : String) (number group : Nat) (about home : String) : User :=
  { name, number, group, about, home, shell := "/usr/sbin/nologin" }

/-- The users of every machine. -/
def all : List User :=
  [{ name := "root", number := 0, group := 0, about := "root", home := "/root",
     shell := "/bin/bash" },
   service "daemon" 1 1 "daemon" "/usr/sbin", service "bin" 2 2 "bin" "/bin",
   service "sys" 3 3 "sys" "/dev",
   { name := "sync", number := 4, group := 65534, about := "sync", home := "/bin",
     shell := "/bin/sync" },
   service "games" 5 60 "games" "/usr/games", service "man" 6 12 "man" "/var/cache/man",
   service "lp" 7 7 "lp" "/var/spool/lpd", service "mail" 8 8 "mail" "/var/mail",
   service "news" 9 9 "news" "/var/spool/news", service "uucp" 10 10 "uucp" "/var/spool/uucp",
   service "proxy" 13 13 "proxy" "/bin", service "www-data" 33 33 "www-data" "/var/www",
   service "backup" 34 34 "backup" "/var/backups",
   service "list" 38 38 "Mailing List Manager" "/var/list",
   service "irc" 39 39 "ircd" "/run/ircd", service "_apt" 42 65534 "" "/nonexistent",
   service "nobody" 65534 65534 "nobody" "/nonexistent"]

/-- The line of a user in the file of users. -/
def line (user : User) : String :=
  ":".intercalate [user.name, "x", toString user.number, toString user.group, user.about,
    user.home, user.shell] ++ "\n"

/-- The file of users. -/
def file : Bytes := Utf8.encode (String.join (all.map line))

/-- The directory of the user of a name. -/
def homeOf? (name : String) : Option String := (all.find? (·.name = name)).map (·.home)

end User

end Exemplar
