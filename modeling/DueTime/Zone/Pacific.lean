/-
DueTime.Zone.Pacific — the zones of the Pacific and of Australia.

Lord Howe, which changes its clocks by half an hour; Apia, Kwajalein and
Kiritimati, which crossed the date line and so left out a day; and
Chatham.
-/
import DueTime.Zone.Change

namespace DueTime.Zone

/-- The zone of Lord Howe. -/
def lordHowe : Zone :=
  .ofChanges "Australia/Lord_Howe" 38180
    [.once ⟨1895, 1, 31⟩ ⟨13, 23, 40⟩ 36000,
     .once ⟨1981, 2, 28⟩ ⟨14, 0, 0⟩ 37800,
     .once ⟨1985, 10, 26⟩ ⟨15, 30, 0⟩ 39600,
     .once ⟨1986, 10, 18⟩ ⟨15, 30, 0⟩ 39600,
     .once ⟨2000, 8, 26⟩ ⟨15, 30, 0⟩ 39600,
     .once ⟨2006, 4, 1⟩ ⟨15, 0, 0⟩ 37800,
     .once ⟨2007, 3, 24⟩ ⟨15, 0, 0⟩ 37800,
     .yearly 1981 1984 .saturday 10 24 ⟨15, 30, 0⟩ 41400,
     .yearly 1982 1985 .saturday 2 28 ⟨14, 30, 0⟩ 37800,
     .yearly 1986 1989 .saturday 3 13 ⟨15, 0, 0⟩ 37800,
     .yearly 1987 1999 .saturday 10 24 ⟨15, 30, 0⟩ 39600,
     .yearly 1990 1995 .saturday 2 28 ⟨15, 0, 0⟩ 37800,
     .yearly 1996 2005 .saturday 3 24 ⟨15, 0, 0⟩ 37800,
     .yearly 2001 2007 .saturday 10 24 ⟨15, 30, 0⟩ 39600,
     .yearly 2008 2099 .saturday 3 31 ⟨15, 0, 0⟩ 37800,
     .yearly 2008 2099 .saturday 9 30 ⟨15, 30, 0⟩ 39600]

/-- The zone of Apia. -/
def apia : Zone :=
  .ofChanges "Pacific/Apia" 45184
    [.once ⟨1892, 7, 4⟩ ⟨11, 26, 56⟩ (-41216),
     .once ⟨1911, 1, 1⟩ ⟨11, 26, 56⟩ (-41400),
     .once ⟨1950, 1, 1⟩ ⟨11, 30, 0⟩ (-39600),
     .once ⟨2010, 9, 26⟩ ⟨11, 0, 0⟩ (-36000),
     .once ⟨2011, 4, 2⟩ ⟨14, 0, 0⟩ (-39600),
     .once ⟨2011, 9, 24⟩ ⟨14, 0, 0⟩ (-36000),
     .once ⟨2011, 12, 30⟩ ⟨10, 0, 0⟩ 50400,
     .yearly 2012 2020 .saturday 9 23 ⟨14, 0, 0⟩ 50400,
     .yearly 2012 2021 .saturday 3 31 ⟨14, 0, 0⟩ 46800]

/-- The zone of Kwajalein. -/
def kwajalein : Zone :=
  .ofChanges "Pacific/Kwajalein" 40160
    [.once ⟨1900, 12, 31⟩ ⟨12, 50, 40⟩ 39600,
     .once ⟨1936, 12, 31⟩ ⟨13, 0, 0⟩ 36000,
     .once ⟨1941, 3, 31⟩ ⟨14, 0, 0⟩ 32400,
     .once ⟨1944, 2, 5⟩ ⟨15, 0, 0⟩ 39600,
     .once ⟨1969, 9, 30⟩ ⟨13, 0, 0⟩ (-43200),
     .once ⟨1993, 8, 21⟩ ⟨12, 0, 0⟩ 43200]

/-- The zone of Kiritimati. -/
def kiritimati : Zone :=
  .ofChanges "Pacific/Kiritimati" (-37760)
    [.once ⟨1901, 1, 1⟩ ⟨10, 29, 20⟩ (-38400),
     .once ⟨1979, 10, 1⟩ ⟨10, 40, 0⟩ (-36000),
     .once ⟨1994, 12, 31⟩ ⟨10, 0, 0⟩ 50400]

/-- The zone of Chatham. -/
def chatham : Zone :=
  .ofChanges "Pacific/Chatham" 44028
    [.once ⟨1868, 11, 1⟩ ⟨11, 46, 12⟩ 44100,
     .once ⟨1945, 12, 31⟩ ⟨11, 45, 0⟩ 45900,
     .once ⟨1974, 11, 2⟩ ⟨14, 0, 0⟩ 49500,
     .once ⟨1975, 2, 22⟩ ⟨14, 0, 0⟩ 45900,
     .yearly 1975 1988 .saturday 10 24 ⟨14, 0, 0⟩ 49500,
     .yearly 1976 1980 .saturday 3 1 ⟨14, 0, 0⟩ 45900,
     .yearly 1981 1989 .saturday 2 28 ⟨14, 0, 0⟩ 45900,
     .yearly 1989 1994 .saturday 10 1 ⟨14, 0, 0⟩ 49500,
     .yearly 1990 2007 .saturday 3 14 ⟨14, 0, 0⟩ 45900,
     .yearly 1995 2006 .saturday 9 30 ⟨14, 0, 0⟩ 49500,
     .yearly 2007 2099 .saturday 9 23 ⟨14, 0, 0⟩ 49500,
     .yearly 2008 2099 .saturday 3 31 ⟨14, 0, 0⟩ 45900]

end DueTime.Zone
