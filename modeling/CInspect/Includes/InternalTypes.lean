import CInspect.Text.Packed
/-!
The internal headers that each define one type of the library.

Each entry is the full path of a header and its text, reduced to the
declarations and macros that programs can see.
-/

namespace CInspect.Includes

/-- The internal headers that each define one type of the library. -/
def internalTypeHeaders : List (String × String) := Text.unpackEntries <|
  String.join [
    "/usr/include/x86_64-linux-gnu/bits/types/FILE.h`#ifndef __FILE_defined`#~&!,~/!: 1``struct _IO~%!>;```typedef ~/!> ~'!D#endif`\x00~J%n~&%E~-%p~9%r~D%t~8%r__~[%t",
    "fpos64_t~/%x~)!;~5&%~1!B 1``#~'%A <~*%0.h>~5!;/__mbstate_t.h>``~3(QG~)%5`@`  __off64_t __pos;~%!6~)!l __~%!-;`$ ~*%r~[':~6'8~<'6~|'4~-'4~,'2~J'0~Y'.local~%%f~%%",
    "e~.!!~)'CBITS_TYPES___LOCALE_T_H~*'H~7!E 1~'!q~(&a~(%?~&!3`@``  ~0!?data *~(!2s[13];```  const unsigned short int *__ctype_b;~)!K~-!;tolower~9!Bupper~,%4char *_",
    "_nam~(%R$;~2)0~.&K~*&0~Y(e~+*N~-+s~)!;~5+u~1!B~((K~*!jWINT~%(w__`# ~)!c~+!:~*(+int~(&7~0&q~%+tint __count;`  union`  @`   ~/!|__wch;~%!<~%(%~%!3b[4];`  $ __valu",
    "~',J~)&B~W'fsigset~1'e~(!:~5'd~1!A~*!BSIGSET_NWORDS (1024 / (8 * sizeof (~)'Ylong int)))~4'X~1!L~&&w[~.%3]~&'-~(%f~Z',val~A/V_~*!M~8'>~.!A~%!c~&!bUSE_POSIX19930",
    "9`~%*) ~&!V~)*Jsival_i~&*Lvoid *~&!6ptr~..!~,!f ~*%J;`#else~'%-~(!;~++V~3%1~(!8~7%3~(!l~/%5~&,n~R(>clock~/+E~'!7~3(&~/!=~<6z~*&2~)![ ~'!+;~Y%|id~4&%id~:&'~,!?~N",
    "&)id~(&+id~X&-ookie_io_functions~6,T~+&K~4!W~4&W~<!L~>&f~-&issize_t ~'!wread~)!y_t (~(+k~&!D,~)74buf,~%3D~G!!~'%5__nbytes);~(&y~9%Zwrite~>%[~-8u~P%d~C%ein~)%]se",
    "ek~=%[~*C6*~%?*,~'/fw);~6!yclos~<&Z~)%b~3G=~5*&~%1/~7)E*read;~*!D~1(.*~%!5~+!F~0&p*seek~+!D~1&:*~%!5;`$ ~5%q~U-pid~&>p~-/y~(!8~3-B~1!>~*'henum~%'IP_ALL,~%!,PID~",
    "'!,G~)!-IDFD,``$ ~(!s~U&3~RE)~?E'~.E%~7H6~*%E>~,./~(!: ~_Bn~6Bl~<Bj~5Bh~FJI~*&6~*Iw~aAAsig_atomic~/&;~,!<~3&>~4!C~?4:~+2W~+!d ~,!0~X&=event~2&;~'!:~6&9~/!A~3&7w",
    "ordsize~8OB~;OZ~*B;>~+Dc_SIGEV_MAX_SIZE\t64`#i~%HZORDSIZE == 64~,H_~&!VPAD~&!V((~0!l /~)EH~%E9 - 4)~'AF~c!o3)~*Ir~*(+have_pth~%4(attr_t~/Au~.!A~/!2;~,%i~3!s\t1~",
    "8K; ~()4~+K+~((;~&!?~(Je  ~(E>gev_signo~0!8notify;`~%!:~(L-    @`\t~%8.pad[~0'b~%QO`\t__p~%?C_tid;``\t~'IS\t~%!d  ~'EH(*~)5t) (~*&&);~&!I~/'N*~%!,ibute~%!E$ ~&,",
    "(_~&!K~&&;~+!:un~&M[~*,N;`~*+C~,&d~)%W  ~*!d.~-%-.~)!H~6!i~)%ns~:!i~)!H~W/Kinfo~2/J~&!9~6/I~.!?~|/H~0/H~*/E128~D/F~0.O~S/?~M!i~./9~-&V~''Y-arch~&&x~((:SI_ALIGNM",
    "ENT~/%K~+!;~&%&~-!ZBAND~%:s~/!Z~)!;\t\t~(Ri~5!gCLOCK_~0%D~'!9\t\t~)Lo~5!dERRNO_THEN_COD~0%S~/!B~*14~-!kHAVE~%TQYS~/!g~+!=~7!cSIGFAULT_ADDL~/!e~/!?~'(i~/V=~(2Q~&",
    "1w~(21~&+)~3&]~+!Oerrno~'2G~'!6code~(ST~1!:~2!b~*&M~2,C~(!R__pad0~*SC~A3d~.3a~23M~(3qsi_pid~'3<__u~(!8u~'!8$ _kill~6!l~'&Ct~)!h~'!4overrun~)%%~+6T~'!/~(%+tim~&d",
    "u~[%u~>%0rt~d%-~(*=tatus~)!M~*-K~%!Rtime~7!?s~)!?~&6mchld~6%g~(Zr_addr~,!u~.,F~%!;~*iR~'!T_lsb~'!X~&*D\t~(*E`\t~)%:~&%;~+%<_~'ip~-!7~'if\t~&&.~%%,bn~%:H\t__uint",
    "32_t _pkey~'%B~%!Mbounds~+&ifaul~9(S~,2% si_ban~/(Ffd~+!spo~&+_~).q~,0e~8'v_call~,'y~%-Ssyscall~)'U~*iL _arch~+%Fsys~).O~+<5fields~)<5~&9:~/53~%>8~*;W_pid\t\t~)",
    "!c.~%.1.~&!;~,!Ku~7!Ku~.!K~%-kid~,!N~%!6.~&.n~,!O~'.l~5!O~'!?~,!S~&,o~,!R~',7.~)!A~-&+time~7!R~%!?~.%+~:!Qs~0!Q~%D5~,!Qrt.~)/j~,!Mint\t~8!L.~)g%~-(ctr~A!Vptr~,!",
    "Vadd~.!W~(,f.~'!A~0!Q_lsb~<!T_lsb~,!X~%.g~5!U~'.3.~).h.~&!Q~-(Zpp~K!e~%!Q~-'6key\t~>!epkey~,!Wband~0!Wpo~&,.ban~-+Yf~9!Nfd~6/X~);Xsi~*/K~/!ksys.~*!A~-!W~'/l~4!U",
    "~'!>~-!Sarch~4!Parch~[m&~5tI~;tG~0!>~;W?~*%*>~0U+~%!; ~_sR~+sP~-&3~8s;~2s9~EHp~0ks~0sg# error \"~);u~('>for standard not ~&%=ing~-sZ\"~1C4~.QS~'re~T'Hta~'r[~<nD",
    "~'!J~4'X~.!=~%)j~)!Aneed_~&jj~+'rstddef~.)q~/E[~'=*s_sp~+DZs_flag~%8<~)kmss~%%0~'8Q~&%_~W'/ruct^(%6+~='2~)!M~5'6~1!B^+%)2~))y_IO~%*POLD^)%6B&& !~)!DLIBC~**e~4!S",
    "should only be~)%)when buil~%*rlibc itself~**q~0%Y~/x6~?%X~/!R~_%W~7d?^1%9|~+!4marker~-!6codecvt~-!7wid^&%1N;~-)<~1&:~)+X~%+I~*!D~*KE`~1%c^*%&'~'+i`` ~(t;IO~&q.",
    "pt^&%1u~.!9end~3!9base~.!:~&qR~8!;~1%+~&!:~1%,buf~3!kbuf~&!O~.&1sav~4%Bbackup~3!<~%!T~&!o  ~1(w *~'!,s~0!D~%,>*_chain~%!?~&'tile~&be~*(+2;^,%9mold_offse~%H( ^0%",
    "6j_cur_colum~%a(~'!?~%&*_vtable~)!e~'&B_~%!_buf[1]~%%Y~**(~%JGck;^)%-K~2.Z`$;~1*D_complete~%*M~0&s~%&c~+H!~*yD~*&T~-!Z~',[ *~*,h~-!D~),j *~,,v~4(Bfreeres_lis^,%",
    ".1~(!:buf~&'_^'%!&pad5~)(cm~%UI~)'aunused2[15^+%3jint~%_%~+!6~&%2) -~)!5~&%.)^'%:[~+3ngetc_unlocked_body(_fp)\t\t\t\t\t\\`  (__glib~%!Hikely (~%!E->~,.K >= ~0!:",
    "end)~%!j ? __uflow~&!H : *^*%5x~&,Z) ~3%%++)~,&&pu~2&&ch, ~L&+~)/L~/&,~)/M~+&-over~)&0, ~.&-) (_ch))~(%G :~2!E*~4%I++ =~'!c~,&YIO_EOF_SEEN 0x0010~+&xfeof~3(| (~",
    ")&W~%/; &~-!o) != 0~0%4RR~*%42~.%4rror~L%6~'!q~5%6USER_LOCK 0x8000`~[<X__jmp~%3ttag~<?t\t~-!N~0<e~6!B~3Fksetjmp~>kk~+G,~(/|~,%-~%A<`~%3e ~*!=~&!-~'/z~(cPmask_wa",
    "s~%5f~'q9~+G|_~&!;~%!K~%AY~]AQi~%Tdspec~-H5~*!:~3AE~2!A^R%NO~'%Ntime~&%L~+'a~*%.~)Dw~'!=~(!S it_inter~%cN~7!E~)wS~_'Gsig~%Eh~AH3~'!K~7N!~,!>~%Dv~*ys~%!?~BGcon~%",
    "!L~d&J~*(C~+&8STRUCT_TIMESPEC~*&6~/!<~L)gendian~9*(tim^*%TO~/)9`@^.%FNTIME_BITS~%m(_~%&>~%;:tv_sec~*n.~&!>~-!<~9mv \\`  || (~)GP_SYSCALL~*!M&&~4!9~%!f)~)!g_~&'F",
    "~'!=32~.HQ~0&<)~%%z~'V/_slong~&&+n~+&F# ~%&,BYTE_ORDER == __BIG_ENDIAN~&<J: 3~%B-~(uP~+!n ~''9~2!>~+!a# ~''G~&!*~d+-val~-0w~'!7~3-?~/!=^?%2=~+*J^&%K>~O*I~%(Duse",
    "conds~(!=u~>*g~-!X~.!V~('S~Z'Rm~.X[~(!9~:Ql~*!?~>'Q~('Pm~)Letm_~*)w tm_min~+!1hour~,!Aday~,!2o~,!Pyea~,!Pw~.!Py~.!2isds~%UR ~%))\t~&))MISC~-+nm_gmtoff;^/%[ttm_z",
    "one~4,K__~9!Z~%!>~)!]~[,V~(2%~/,N~5Z%~.!<~>(v~9,9~*]R~*,?~%%'~(,!~.!E~-!C~XeV~%:J~3&dr~9&er^S%QS~'![ ~'!+~U(cwi^1%=B~&!6~3%y~.!<~([J~*!a^&%bB~*!U~&!3^n%d,~*&x~,",
    "!O~&%i~*&|~'!*"]

end CInspect.Includes
